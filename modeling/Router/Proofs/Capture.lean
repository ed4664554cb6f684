import Router.Capture
import Router.Proofs.Hex

/-!
# Captures as text

How datagrams may be written, apart from any reader: a line spells the octets of one datagram, with blanks between the
digits, digits of either case and a comment at its end (`Spells`), and lines list datagrams if each spells one of them
or nothing (`Lists`). Lines can be read if what is left of each without comment and blanks is digits in even number
(`IsHex`). Reading goes line by line: one that can be read adds what it spells (`datagrams_cons_of_spells`), one that
cannot ends the reading with its number (`datagrams_cons_of_not_isHex`). Main statement: with any reader of hexadecimal
text a text is read exactly if all of its lines can be, then as the datagrams of the lines that are not empty, in order,
whichever way they were written, and else the first line that cannot be read is reported (`text_read`).
-/

namespace Router.Capture

open Router.Text (isBlank fields join)

/-! ## Lines -/

/-- A line for the octets of a datagram; a line for none has blanks and a comment at most. -/
inductive Spells : Datagram → List Char → Prop
  | done : Spells [] []
  | comment (text : List Char) : Spells [] ('#' :: text)
  | blank {data : Datagram} {c : Char} {line : List Char} (hc : isBlank c = true) (rest : Spells data line) :
    Spells data (c :: line)
  | octet {b : UInt8} {data : Datagram} {high low : Char} {gap line : List Char}
    (hhigh : Hex.IsDigit (b.toNat / 16) high) (hgap : ∀ c ∈ gap, isBlank c = true)
    (hlow : Hex.IsDigit (b.toNat % 16) low) (rest : Spells data line) :
    Spells (b :: data) (high :: (gap ++ low :: line))

/-- Lines for datagrams, one for each; lines for none may stand anywhere. -/
inductive Lists : List Datagram → List (List Char) → Prop
  | nil : Lists [] []
  | skip {datagrams : List Datagram} {line : List Char} {lines : List (List Char)} (hline : Spells [] line)
    (rest : Lists datagrams lines) : Lists datagrams (line :: lines)
  | datagram {data : Datagram} {datagrams : List Datagram} {line : List Char} {lines : List (List Char)}
    (hdata : data ≠ []) (hline : Spells data line) (rest : Lists datagrams lines) :
    Lists (data :: datagrams) (line :: lines)

/-- A line that can be read. -/
def IsHex (line : List Char) : Prop :=
  (digits line).length % 2 = 0 ∧ ∀ c ∈ digits line, c ∈ Hex.alphabet

instance (line : List Char) : Decidable (IsHex line) :=
  -- By going through the line, not through all characters that there are.
  haveI := List.decidableBAll (· ∈ Hex.alphabet) (digits line)
  inferInstanceAs (Decidable (_ ∧ _))

/-- The lines of a text. -/
def lines (text : String) : List (List Char) :=
  fields '\n' text.toList

section Digits

variable {c : Char} {line gap cs : List Char} {data : Datagram}

theorem digits_blank_cons (hc : isBlank c = true) : digits (c :: line) = digits line := by
  have hhash : c ≠ '#' := by
    rintro rfl
    cases hc
  rw [digits, List.takeWhile_cons_of_pos (by simpa using hhash), List.filter_cons_of_neg (by simp [hc])]
  rfl

theorem digits_gap_append (hgap : ∀ c ∈ gap, isBlank c = true) : digits (gap ++ line) = digits line := by
  induction gap with
  | nil => rfl
  | cons c gap ih =>
    obtain ⟨hc, hgap⟩ := List.forall_mem_cons.1 hgap
    rw [List.cons_append, digits_blank_cons hc, ih hgap]

theorem digits_cons (hhash : c ≠ '#') (hc : isBlank c = false) : digits (c :: line) = c :: digits line := by
  rw [digits, List.takeWhile_cons_of_pos (by simpa using hhash), List.filter_cons_of_pos (by simp [hc])]
  rfl

theorem digits_digit_cons {v : Nat} (h : Hex.IsDigit v c) : digits (c :: line) = c :: digits line := by
  have hdigit : ∀ c ∈ Hex.alphabet, c ≠ '#' ∧ isBlank c = false := Hex.forall_mem_alphabet (by decide)
  obtain ⟨hhash, hc⟩ := hdigit c (Hex.mem_alphabet_iff.2 ⟨v, h⟩)
  exact digits_cons hhash hc

/-- What stands before the first digit of a line is blank. -/
theorem exists_gap_of_digits_eq_cons (h : digits line = c :: cs) :
    ∃ gap rest, (∀ c ∈ gap, isBlank c = true) ∧ line = gap ++ c :: rest ∧ digits rest = cs := by
  induction line with
  | nil => cases h
  | cons d line ih =>
    by_cases hhash : d = '#'
    · subst hhash
      cases h
    cases hd : isBlank d with
    | true =>
      rw [digits_blank_cons hd] at h
      obtain ⟨gap, rest, hgap, rfl, hrest⟩ := ih h
      exact ⟨d :: gap, rest, List.forall_mem_cons.2 ⟨hd, hgap⟩, rfl, hrest⟩
    | false =>
      rw [digits_cons hhash hd] at h
      cases h
      exact ⟨[], line, List.forall_mem_nil _, rfl, rfl⟩

theorem Spells.gap_append (hgap : ∀ c ∈ gap, isBlank c = true) (h : Spells data line) : Spells data (gap ++ line) := by
  induction gap with
  | nil => exact h
  | cons c gap ih =>
    obtain ⟨hc, hgap⟩ := List.forall_mem_cons.1 hgap
    exact .blank hc (ih hgap)

theorem spells_nil_of_digits_eq_nil (h : digits line = []) : Spells [] line := by
  induction line with
  | nil => exact .done
  | cons c line ih =>
    by_cases hhash : c = '#'
    · subst hhash
      exact .comment line
    cases hc : isBlank c with
    | true => exact .blank hc (ih (digits_blank_cons hc ▸ h))
    | false =>
      rw [digits_cons hhash hc] at h
      cases h

/-- A line spells what its digits spell. -/
theorem spells_iff : Spells data line ↔ Hex.Spells data (digits line) := by
  constructor
  · intro h
    induction h with
    | done => exact .nil
    | comment text => exact .nil
    | blank hc rest ih => rwa [digits_blank_cons hc]
    | octet hhigh hgap hlow rest ih =>
      rw [digits_digit_cons hhigh, digits_gap_append hgap, digits_digit_cons hlow]
      exact .cons hhigh hlow ih
  · intro h
    generalize hcs : digits line = cs at h
    induction h generalizing line with
    | nil => exact spells_nil_of_digits_eq_nil hcs
    | cons hhigh hlow rest ih =>
      obtain ⟨front, afterHigh, hfront, rfl, hafterHigh⟩ := exists_gap_of_digits_eq_cons hcs
      obtain ⟨gap, afterLow, hgap, rfl, hafterLow⟩ := exists_gap_of_digits_eq_cons hafterHigh
      exact .gap_append hfront (.octet hhigh hgap hlow (ih hafterLow))

theorem isHex_iff : IsHex line ↔ ∃ data, Hex.Spells data (digits line) :=
  Hex.exists_spells_iff.symm

/-- Lines list the datagrams that their digits spell, if they have any. -/
theorem lists_iff {ds : List Datagram} {ls : List (List Char)} :
    Lists ds ls ↔ List.Forall₂ Hex.Spells ds ((ls.map digits).filter (· ≠ [])) := by
  constructor
  · intro h
    induction h with
    | nil => exact .nil
    | skip hline rest ih =>
      have hempty := (spells_iff.1 hline).eq_nil_iff.1 rfl
      rwa [List.map_cons, List.filter_cons_of_neg (by simpa using hempty)]
    | datagram hdata hline rest ih =>
      have hspells := spells_iff.1 hline
      rw [List.map_cons, List.filter_cons_of_pos (by simpa using mt hspells.eq_nil_iff.2 hdata)]
      exact .cons hspells ih
  · intro h
    induction ls generalizing ds with
    | nil =>
      cases h
      exact .nil
    | cons line rest ih =>
      by_cases hline : digits line = []
      · rw [List.map_cons, List.filter_cons_of_neg (by simpa using hline)] at h
        exact .skip (spells_iff.2 (hline ▸ .nil)) (ih h)
      · rw [List.map_cons, List.filter_cons_of_pos (by simpa using hline)] at h
        cases h with
        | cons hspells hrest =>
          exact .datagram (mt hspells.eq_nil_iff.1 hline) (spells_iff.2 hspells) (ih hrest)

end Digits

/-! ## Reading line by line -/

section Reading

variable {decode : HexReader} {data : Datagram} {line : List Char} {ds : List Datagram} {ls : List (List Char)}

theorem datagrams_cons_of_digits_eq_nil (h : digits line = []) (number : Nat) (rest : List (List Char)) :
    datagrams decode number (line :: rest) = datagrams decode (number + 1) rest := by
  rw [datagrams, if_pos h]

variable (hdecode : Hex.Decodes decode)
include hdecode

theorem datagrams_cons_of_spells (hdata : data ≠ []) (h : Hex.Spells data (digits line)) (number : Nat)
    (rest : List (List Char)) :
    datagrams decode number (line :: rest) = (datagrams decode (number + 1) rest).map (data :: ·) := by
  rw [datagrams, if_neg (mt h.eq_nil_iff.2 hdata), hdecode.eq_ok_iff.2 h]

/-- A line that cannot be read ends the reading. -/
theorem datagrams_cons_of_not_isHex (h : ¬ IsHex line) (number : Nat) (rest : List (List Char)) :
    ∃ reason, decode (String.ofList (digits line)) = .error reason ∧
      datagrams decode number (line :: rest) = .error (.malformed (.captureLine number reason)) := by
  have hline : digits line ≠ [] := fun hempty => h (isHex_iff.2 ⟨[], hempty ▸ .nil⟩)
  obtain ⟨reason, hreason⟩ := hdecode.exists_error (not_exists.1 (mt isHex_iff.2 h))
  refine ⟨reason, hreason, ?_⟩
  rw [datagrams, if_neg hline, hreason]

/-- A line that can be read leaves the error of the lines after it as it is. -/
theorem datagrams_cons_of_isHex (h : IsHex line) {number : Nat} {rest : List (List Char)} {e : Error}
    (he : datagrams decode (number + 1) rest = .error e) : datagrams decode number (line :: rest) = .error e := by
  obtain ⟨data, hdata⟩ := isHex_iff.1 h
  by_cases hempty : data = []
  · rw [datagrams_cons_of_digits_eq_nil (hdata.eq_nil_iff.1 hempty), he]
  · rw [datagrams_cons_of_spells hdecode hempty hdata, he]
    rfl

/-- Lines are read as the datagrams they list. -/
theorem Lists.datagrams_eq_ok (h : Lists ds ls) (number : Nat) : datagrams decode number ls = .ok ds := by
  induction h generalizing number with
  | nil => rfl
  | skip hline rest ih => rw [datagrams_cons_of_digits_eq_nil ((spells_iff.1 hline).eq_nil_iff.1 rfl), ih]
  | datagram hdata hline rest ih =>
    rw [datagrams_cons_of_spells hdecode hdata (spells_iff.1 hline), ih]
    rfl

omit hdecode in
theorem exists_lists_of_isHex (h : ∀ line ∈ ls, IsHex line) : ∃ ds, Lists ds ls := by
  induction ls with
  | nil => exact ⟨[], .nil⟩
  | cons line rest ih =>
    obtain ⟨hline, hrest⟩ := List.forall_mem_cons.1 h
    obtain ⟨ds, hds⟩ := ih hrest
    obtain ⟨data, hdata⟩ := isHex_iff.1 hline
    by_cases hempty : data = []
    · exact ⟨ds, .skip (spells_iff.2 (hempty ▸ hdata)) hds⟩
    · exact ⟨data :: ds, .datagram hempty (spells_iff.2 hdata) hds⟩

/-- Of lines that cannot all be read, the first that cannot is reported with its number. -/
theorem datagrams_of_not_isHex (h : ¬ ∀ line ∈ ls, IsHex line) (number : Nat) :
    ∃ front line back reason, ls = front ++ line :: back ∧ (∀ before ∈ front, IsHex before) ∧ ¬ IsHex line ∧
      decode (String.ofList (digits line)) = .error reason ∧
      datagrams decode number ls = .error (.malformed (.captureLine (number + front.length) reason)) := by
  induction ls generalizing number with
  | nil => exact absurd (List.forall_mem_nil _) h
  | cons line rest ih =>
    by_cases hline : IsHex line
    · have hrest : ¬ ∀ line ∈ rest, IsHex line := fun hrest => h (List.forall_mem_cons.2 ⟨hline, hrest⟩)
      obtain ⟨front, bad, back, reason, rfl, hfront, hbad, hreason, herror⟩ := ih hrest (number + 1)
      refine ⟨line :: front, bad, back, reason, rfl, List.forall_mem_cons.2 ⟨hline, hfront⟩, hbad, hreason, ?_⟩
      rw [datagrams_cons_of_isHex hdecode hline herror, List.length_cons, Nat.add_assoc, Nat.add_comm 1]
    · obtain ⟨reason, hreason, herror⟩ := datagrams_cons_of_not_isHex hdecode hline number rest
      exact ⟨[], line, rest, reason, rfl, List.forall_mem_nil _, hline, hreason, herror⟩

theorem datagrams_eq_ok_iff {number : Nat} : datagrams decode number ls = .ok ds ↔ Lists ds ls := by
  constructor
  · intro hok
    by_cases h : ∀ line ∈ ls, IsHex line
    · obtain ⟨ds', hds'⟩ := exists_lists_of_isHex h
      rw [hds'.datagrams_eq_ok hdecode] at hok
      cases hok
      exact hds'
    · obtain ⟨_, _, _, _, _, _, _, _, herror⟩ := datagrams_of_not_isHex hdecode h number
      rw [herror] at hok
      cases hok
  · exact fun h => h.datagrams_eq_ok hdecode number

end Reading

/-! ## Writing and reading -/

section Texts

variable {data : Datagram} {line : List Char} {ds : List Datagram} {ls : List (List Char)}

theorem spells_of_hex (h : Hex.Spells data line) : Spells data line := by
  induction h with
  | nil => exact .done
  | cons hhigh hlow rest ih => exact .octet hhigh (List.forall_mem_nil _) hlow ih

theorem Lists.ne_nil (h : Lists ds ls) : ∀ data ∈ ds, data ≠ [] := by
  induction h with
  | nil => exact List.forall_mem_nil _
  | skip hline rest ih => exact ih
  | datagram hdata hline rest ih => exact List.forall_mem_cons.2 ⟨hdata, ih⟩

/-- Datagrams can be listed, each in small digits on a line of its own. -/
theorem lists_encode (h : ∀ data ∈ ds, data ≠ []) : Lists ds (ds.map fun data => (Hex.encode data).toList) := by
  induction ds with
  | nil => exact .nil
  | cons data ds ih =>
    obtain ⟨hdata, hds⟩ := List.forall_mem_cons.1 h
    exact .datagram hdata (spells_of_hex (Hex.spells_encode data)) (ih hds)

theorem newline_not_mem_encode (data : Datagram) : '\n' ∉ (Hex.encode data).toList := fun hmem =>
  absurd ((Hex.spells_encode data).mem_alphabet '\n' hmem) (by decide)

/-- Lines joined to a text are the lines of the text, but that no line at all makes one that is empty. -/
theorem Lists.lines_join (h : Lists ds ls) (hls : ∀ line ∈ ls, '\n' ∉ line) :
    Lists ds (lines (String.ofList (join ['\n'] ls))) := by
  rw [lines, String.toList_ofList]
  cases ls with
  | nil => exact .skip .done h
  | cons line rest => rwa [Text.fields_join (List.cons_ne_nil line rest) hls]

section Reader

variable {decode : HexReader} (hdecode : Hex.Decodes decode)
include hdecode

theorem ofText_eq_ok_iff {ingress text : String} {c : Capture} :
    ofText decode ingress text = .ok c ↔ ∃ ds, Lists ds (lines text) ∧ c = ofDatagrams ingress ds := by
  constructor
  · intro h
    cases hread : datagrams decode 1 (lines text) with
    | ok ds =>
      rw [ofText, ← lines, hread] at h
      cases h
      exact ⟨ds, (datagrams_eq_ok_iff hdecode).1 hread, rfl⟩
    | error e =>
      rw [ofText, ← lines, hread] at h
      cases h
  · rintro ⟨ds, hds, rfl⟩
    rw [ofText, ← lines, hds.datagrams_eq_ok hdecode]
    rfl

/-- The first line of a text that cannot be read is reported, counted from 1. -/
theorem ofText_of_not_isHex (ingress : String) {text : String} (h : ¬ ∀ line ∈ lines text, IsHex line) :
    ∃ front line back reason, lines text = front ++ line :: back ∧ (∀ before ∈ front, IsHex before) ∧ ¬ IsHex line ∧
      decode (String.ofList (digits line)) = .error reason ∧
      ofText decode ingress text = .error (.malformed (.captureLine (front.length + 1) reason)) := by
  obtain ⟨front, line, back, reason, hlines, hfront, hline, hreason, herror⟩ := datagrams_of_not_isHex hdecode h 1
  refine ⟨front, line, back, reason, hlines, hfront, hline, hreason, ?_⟩
  rw [ofText, ← lines, herror, Nat.add_comm]
  rfl

theorem succeeds_ofText_iff {ingress text : String} :
    Succeeds (ofText decode ingress text) ↔ ∀ line ∈ lines text, IsHex line := by
  by_cases h : ∀ line ∈ lines text, IsHex line
  · obtain ⟨ds, hds⟩ := exists_lists_of_isHex h
    exact iff_of_true ⟨_, (ofText_eq_ok_iff hdecode).2 ⟨ds, hds, rfl⟩⟩ h
  · obtain ⟨_, _, _, _, _, _, _, _, herror⟩ := ofText_of_not_isHex hdecode ingress h
    exact iff_of_false (herror ▸ not_succeeds_error _) h

/-- A text is read exactly if each of its lines, without comment and blanks, is digits in even number. What is pending
then are the octets of the lines that have any, one datagram for each and in their order; so datagrams that are not
empty are read back however they were listed, and any of these can be listed. Else the first line that is something
else is reported, counted from 1, with what the reader says of its digits. -/
theorem text_read (ingress : String) :
    (∀ text, Succeeds (ofText decode ingress text) ↔ ∀ line ∈ lines text, IsHex line) ∧
    (∀ text c, ofText decode ingress text = .ok c ↔
      ∃ ds, List.Forall₂ Hex.Spells ds (((lines text).map digits).filter (· ≠ [])) ∧ c = ofDatagrams ingress ds) ∧
    (∀ ds ls, Lists ds ls → (∀ line ∈ ls, '\n' ∉ line) →
      ofText decode ingress (String.ofList (join ['\n'] ls)) = .ok (ofDatagrams ingress ds)) ∧
    (∀ ds, (∀ data ∈ ds, data ≠ []) ↔ ∃ ls, Lists ds ls ∧ ∀ line ∈ ls, '\n' ∉ line) ∧
    (∀ text, ¬ (∀ line ∈ lines text, IsHex line) → ∃ front line back reason, lines text = front ++ line :: back ∧
      (∀ before ∈ front, IsHex before) ∧ ¬ IsHex line ∧ decode (String.ofList (digits line)) = .error reason ∧
      ofText decode ingress text = .error (.malformed (.captureLine (front.length + 1) reason))) := by
  refine ⟨fun text => succeeds_ofText_iff hdecode, fun text c => ?_, fun ds ls h hls => ?_,
    fun ds => ⟨fun h => ?_, ?_⟩, fun text => ofText_of_not_isHex hdecode ingress⟩
  · simp only [ofText_eq_ok_iff hdecode, lists_iff]
  · exact (ofText_eq_ok_iff hdecode).2 ⟨ds, h.lines_join hls, rfl⟩
  · exact ⟨_, lists_encode h, List.forall_mem_map.2 fun data _ => newline_not_mem_encode data⟩
  · rintro ⟨ls, hls, -⟩
    exact hls.ne_nil

end Reader

/-- Comments, an empty line, blanks of several kinds and digits of both cases are read; the third line of a text is
reported, after an empty one. -/
theorem mixed_text_read :
    Hex.Decodes Hex.read ∧
    ofText Hex.read "lan0"
        (String.ofList (join ['\n'] ["# lan0".toList, [], " 4 5\t00 # echo".toList, "aBCd\r".toList])) =
      .ok (ofDatagrams "lan0" [[0x45, 0x00], [0xab, 0xcd]]) ∧
    ∃ front line back reason, lines "4500\n\nzz" = front ++ line :: back ∧ (∀ before ∈ front, IsHex before) ∧
      ¬ IsHex line ∧ Hex.read (String.ofList (digits line)) = .error reason ∧
      ofText Hex.read "lan0" "4500\n\nzz" = .error (.malformed (.captureLine (front.length + 1) reason)) := by
  have hlists : Lists [[0x45, 0x00], [0xab, 0xcd]]
      ["# lan0".toList, [], " 4 5\t00 # echo".toList, "aBCd\r".toList] := by
    refine .skip (.comment _) (.skip .done (.datagram (by decide) ?_ (.datagram (by decide) ?_ .nil)))
    · exact spells_iff.2 (by decide)
    · exact spells_iff.2 (by decide)
  obtain ⟨-, -, hread, -, herror⟩ := text_read Hex.decodes_read "lan0"
  exact ⟨Hex.decodes_read, hread _ _ hlists (by decide), herror "4500\n\nzz" (by decide)⟩

end Texts

end Router.Capture
