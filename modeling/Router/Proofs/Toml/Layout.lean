import Mathlib.Data.List.Nodup
import Router.Toml.Reader
import Router.Toml.Writer

/-!
# TOML texts

Which texts stand for a document of lists of records, apart from any writer and any reader. A string stands between
quotes of one of four kinds (`Quoted`), and a document is a sequence of clauses, one for each line that is not blank
(`Layout`). Its outline is the names of lists without records and then the records, each under the name of its list
(`Outline`); records under one name are one list, in the order in which they stand (`Outline.list?`). Main statement: in
the outline of lists with distinct names each list is found under its name (`list?_ofLists`).
-/

namespace Router.Toml

open Router.Document Router.Text

/-! ## Strings -/

/-- The letters of escapes, each with the character that it stands for. -/
def escapeLetters : List (Char × Char) :=
  [('b', '\x08'), ('t', '\t'), ('n', '\n'), ('f', '\x0c'), ('r', '\r'), ('"', '"'), ('\\', '\\')]

/-- How a character can stand between double quotes: as itself, by the letter of an escape, or by its number in four
hexadecimal digits. -/
inductive Stands (c : Char) : List Char → Prop
  | itself (h : isBasicChar c = true) : Stands c [c]
  | letter {l : Char} (h : (l, c) ∈ escapeLetters) : Stands c ['\\', l]
  | number {digits : List Char} (hlength : digits.length = 4) (h : Radix.read? 16 digits = some c.toNat) :
    Stands c ('\\' :: 'u' :: digits)

/-- How a character can stand between single quotes: as itself, if at all. -/
inductive StandsBare (c : Char) : List Char → Prop
  | itself (h : isLiteralChar c = true) : StandsBare c [c]

/-- A text on one line between double quotes, for the characters of a string. -/
inductive OneLine : List Char → List Char → Prop
  | nil : OneLine [] []
  | cons {c : Char} {cs piece text : List Char} (hpiece : Stands c piece) (rest : OneLine cs text) :
    OneLine (c :: cs) (piece ++ text)

/-- A text between three quotes for the characters of a string, with `run` quotes just before. Up to two quotes in a row
and line feeds stand for themselves, and other characters as `Piece` says. -/
inductive Lines (quote : Char) (Piece : Char → List Char → Prop) : (run : Nat) → List Char → List Char → Prop
  | nil {run : Nat} : Lines quote Piece run [] []
  | quote {run : Nat} {cs text : List Char} (hrun : run < 2) (rest : Lines quote Piece (run + 1) cs text) :
    Lines quote Piece run (quote :: cs) (quote :: text)
  | newline {run : Nat} {cs text : List Char} (rest : Lines quote Piece 0 cs text) :
    Lines quote Piece run ('\n' :: cs) ('\n' :: text)
  | piece {run : Nat} {c : Char} {cs piece text : List Char} (hpiece : Piece c piece)
    (rest : Lines quote Piece 0 cs text) : Lines quote Piece run (c :: cs) (piece ++ text)

/-- The quotes around strings of several lines, and how characters can stand between them. -/
inductive Fence : Char → (Char → List Char → Prop) → Prop
  | basic : Fence '"' Stands
  | literal : Fence '\'' StandsBare

/-- A text between three quotes and three quotes. -/
def fenced (quote : Char) (text : List Char) : List Char :=
  List.replicate 3 quote ++ (text ++ List.replicate 3 quote)

/-- The characters of a string, and its text with its quotes. A line feed right after three quotes does not count. -/
inductive Quoted (cs : List Char) : List Char → Prop
  | basic {text : List Char} (h : OneLine cs text) : Quoted cs ('"' :: (text ++ ['"']))
  | literal (h : ∀ c ∈ cs, isLiteralChar c = true) : Quoted cs ('\'' :: (cs ++ ['\'']))
  | lines {quote : Char} {Piece : Char → List Char → Prop} {text : List Char} (hfence : Fence quote Piece)
    (h : Lines quote Piece 0 cs text) (hhead : text.head? ≠ some '\n') : Quoted cs (fenced quote text)
  | linesBelow {quote : Char} {Piece : Char → List Char → Prop} {text : List Char} (hfence : Fence quote Piece)
    (h : Lines quote Piece 0 cs text) : Quoted cs (fenced quote ('\n' :: text))

/-! ## Lines of a document -/

/-- Whether a name can stand without quotes. -/
def isBare (name : String) : Bool :=
  name.toList ≠ [] && name.toList.all isBareChar

/-- A scalar and its text: a string with its quotes, or an integer of 64 bits. -/
inductive Noted : Scalar → List Char → Prop
  | text {s : String} {chars : List Char} (h : Quoted s.toList chars) : Noted (.text s) chars
  | integer {n : Int} (hlow : -(maxInteger + 1 : Int) ≤ n) (hhigh : n ≤ maxInteger) :
    Noted (.integer n) (toString n).toList

/-- What a line of a document says. -/
inductive Clause
  /-- A list has no records. -/
  | emptyList (name : String)
  /-- One more record of a list follows. -/
  | header (name : String)
  /-- The record has a field. -/
  | field (name : String) (value : Scalar)

/-- A clause and its line, without the line feed at its end. -/
inductive Stated : Clause → List Char → Prop
  | emptyList {name : String} (hname : isBare name = true) :
    Stated (.emptyList name) (name.toList ++ [' ', '=', ' ', '[', ']'])
  | header {name : String} (hname : isBare name = true) :
    Stated (.header name) (['[', '['] ++ name.toList ++ [']', ']'])
  | field {name : String} {value : Scalar} {chars : List Char} (hname : isBare name = true) (h : Noted value chars) :
    Stated (.field name value) (name.toList ++ [' ', '=', ' '] ++ chars)

/-- The clauses of a text, with a line for each and blank lines anywhere. -/
inductive Layout : List Clause → List Char → Prop
  | nil : Layout [] []
  | blank {clauses : List Clause} {text : List Char} (rest : Layout clauses text) : Layout clauses ('\n' :: text)
  | line {c : Clause} {clauses : List Clause} {line text : List Char} (h : Stated c line)
    (rest : Layout clauses text) : Layout (c :: clauses) (line ++ '\n' :: text)

namespace Layout

variable {clauses clauses' : List Clause} {text text' : List Char}

theorem append (h : Layout clauses text) (h' : Layout clauses' text') :
    Layout (clauses ++ clauses') (text ++ text') := by
  induction h with
  | nil => exact h'
  | blank rest ih => exact .blank ih
  | line hline rest ih =>
    rw [List.cons_append, List.append_assoc, List.cons_append]
    exact .line hline ih

theorem single {c : Clause} {line : List Char} (h : Stated c line) : Layout [c] (line ++ ['\n']) :=
  .line h .nil

theorem flatten {texts : List (List Char)} {parts : List (List Clause)} (h : List.Forall₂ Layout parts texts) :
    Layout parts.flatten texts.flatten := by
  induction h with
  | nil => exact .nil
  | cons hfirst _ ih => exact hfirst.append ih

/-- Texts with blank lines between them, where those without any character are left out. -/
theorem intersperse {texts : List (List Char)} {parts : List (List Clause)} (h : List.Forall₂ Layout parts texts) :
    Layout parts.flatten ((texts.filter (· ≠ [])).intersperse ['\n']).flatten := by
  induction h with
  | nil => exact .nil
  | cons hfirst _ ih =>
    rename_i first text parts texts _
    by_cases hne : text = []
    · subst hne
      rw [List.filter_cons_of_neg (by simp)]
      exact hfirst.append ih
    · rw [List.filter_cons_of_pos (by simpa using hne)]
      cases htexts : texts.filter (· ≠ []) with
      | nil =>
        rw [htexts] at ih
        simpa using hfirst.append ih
      | cons next others =>
        rw [htexts] at ih
        simpa using hfirst.append (.blank ih)

end Layout

/-! ## What a document holds -/

/-- The names of lists without records, then the records, each with the name of its list. -/
structure Outline where
  empty : List String
  records : List (String × List (String × Scalar))

namespace Outline

/-- The clauses of a record of a list. -/
def recordClauses (r : String × List (String × Scalar)) : List Clause :=
  .header r.1 :: r.2.map fun field => .field field.1 field.2

/-- The clauses of a document. -/
def clauses (o : Outline) : List Clause :=
  o.empty.map .emptyList ++ o.records.flatMap recordClauses

/-- Nothing in a document is defined twice. -/
structure Consistent (o : Outline) : Prop where
  empty : o.empty.Nodup
  apart : ∀ r ∈ o.records, r.1 ∉ o.empty
  fields : ∀ r ∈ o.records, (r.2.map Prod.fst).Nodup

/-- The records under a name, in order. -/
def under (name : String) (records : List (String × List (String × Scalar))) : List (List (String × Scalar)) :=
  (records.filter fun r => r.1 = name).map Prod.snd

/-- The list that a document has under a name, if it has one. -/
def list? (o : Outline) (name : String) : Option (List (List (String × Scalar))) :=
  if name ∈ o.empty then some [] else if under name o.records = [] then none else some (under name o.records)

/-- The outline of lists. -/
def ofLists (lists : List RecordList) : Outline where
  empty := (lists.filter fun l => l.records.isEmpty).map RecordList.name
  records := lists.flatMap fun l => l.records.map fun fields => (l.name, fields)

theorem under_append (name : String) (records others : List (String × List (String × Scalar))) :
    under name (records ++ others) = under name records ++ under name others := by
  rw [under, List.filter_append, List.map_append]
  rfl

theorem under_of_forall_ne {name : String} {records : List (String × List (String × Scalar))}
    (h : ∀ r ∈ records, r.1 ≠ name) : under name records = [] := by
  rw [under, List.filter_eq_nil_iff.2 (by simpa using h), List.map_nil]

theorem under_record (name : String) (fields : List (String × Scalar)) : under name [(name, fields)] = [fields] := by
  simp [under]

/-! ### The outline of lists with distinct names -/

variable {lists : List RecordList}

theorem mem_records_ofLists {r : String × List (String × Scalar)} :
    r ∈ (ofLists lists).records ↔ ∃ l ∈ lists, l.name = r.1 ∧ r.2 ∈ l.records := by
  obtain ⟨name, fields⟩ := r
  simp only [ofLists, List.mem_flatMap, List.mem_map, Prod.mk.injEq]
  constructor
  · rintro ⟨l, hl, fields, hfields, rfl, rfl⟩
    exact ⟨l, hl, rfl, hfields⟩
  · rintro ⟨l, hl, rfl, hfields⟩
    exact ⟨l, hl, fields, hfields, rfl, rfl⟩

theorem mem_empty_ofLists_iff (h : (lists.map RecordList.name).Nodup) {l : RecordList} (hl : l ∈ lists) :
    l.name ∈ (ofLists lists).empty ↔ l.records = [] := by
  simp only [ofLists, List.mem_map, List.mem_filter, List.isEmpty_iff]
  constructor
  · rintro ⟨other, ⟨hother, hempty⟩, hname⟩
    rwa [← List.inj_on_of_nodup_map h hother hl hname]
  · exact fun hempty => ⟨l, ⟨hl, hempty⟩, rfl⟩

theorem under_ofLists (h : (lists.map RecordList.name).Nodup) {l : RecordList} (hl : l ∈ lists) :
    under l.name (ofLists lists).records = l.records := by
  induction lists with
  | nil => cases hl
  | cons first rest ih =>
    obtain ⟨hfirst, hrest⟩ := List.nodup_cons.1 h
    have hrecords : (ofLists (first :: rest)).records =
        (first.records.map fun fields => (first.name, fields)) ++ (ofLists rest).records := rfl
    rw [hrecords, under_append]
    rcases List.mem_cons.1 hl with rfl | hl
    · have hothers : under l.name (ofLists rest).records = [] := under_of_forall_ne fun r hr hname => by
        obtain ⟨other, hother, hsame, -⟩ := mem_records_ofLists.1 hr
        exact hfirst (List.mem_map.2 ⟨other, hother, hsame.trans hname⟩)
      rw [hothers, List.append_nil, under, List.filter_eq_self.2 (by simp), List.map_map]
      exact List.map_id _
    · have hnone : under l.name (first.records.map fun fields => (first.name, fields)) = [] :=
        under_of_forall_ne fun r hr hname => by
          obtain ⟨fields, -, rfl⟩ := List.mem_map.1 hr
          exact hfirst (List.mem_map.2 ⟨l, hl, hname.symm⟩)
      rw [hnone, List.nil_append, ih hrest hl]

/-- Each list is found under its name. -/
theorem list?_ofLists (h : (lists.map RecordList.name).Nodup) {l : RecordList} (hl : l ∈ lists) :
    (ofLists lists).list? l.name = some l.records := by
  rw [list?, under_ofLists h hl]
  by_cases hempty : l.records = []
  · rw [if_pos ((mem_empty_ofLists_iff h hl).2 hempty), hempty]
  · rw [if_neg (mt (mem_empty_ofLists_iff h hl).1 hempty), if_neg hempty]

theorem consistent_ofLists (h : (lists.map RecordList.name).Nodup)
    (hfields : ∀ l ∈ lists, ∀ fields ∈ l.records, (fields.map Prod.fst).Nodup) : (ofLists lists).Consistent where
  empty := (List.filter_sublist.map RecordList.name).nodup h
  apart r hr := by
    obtain ⟨l, hl, hname, hmem⟩ := mem_records_ofLists.1 hr
    rw [← hname, mem_empty_ofLists_iff h hl]
    exact List.ne_nil_of_mem hmem
  fields r hr := by
    obtain ⟨l, hl, -, hmem⟩ := mem_records_ofLists.1 hr
    exact hfields l hl r.2 hmem

end Outline

end Router.Toml
