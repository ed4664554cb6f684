import Router.Proofs.Config.Installation

/-!
# The defaults that a configuration sets

A keyword is told from others by its form alone, whatever blanks surround it and whatever the case of its letters
(`keyword_eq_iff`), so different keys of a table may stand for one chain. Every entry of an accepted configuration names
a chain and a verdict, and a chain has the verdict of its last entry (`Fits.default_of_getLast?`). Main statement: an
entry is in force exactly if the last one behind it for the same chain, if there is any, says the same; so all entries
of a table are in force exactly if those for one chain agree (`defaults_in_force`).
-/

namespace Router

open Router.Text

/-- The last elements of related lists are related. -/
theorem exists_getLast?_of_forall₂ {α β : Type} {R : α → β → Prop} {xs : List α} {ys : List β} {a : α}
    (h : List.Forall₂ R xs ys) (ha : xs.getLast? = some a) : ∃ b, ys.getLast? = some b ∧ R a b := by
  rw [List.getLast?_eq_head?_reverse] at ha
  obtain ⟨rest, hrest⟩ := List.head?_eq_some_iff.1 ha
  have hreverse := List.forall₂_reverse_iff.2 h
  rw [hrest, List.forall₂_cons_left_iff] at hreverse
  obtain ⟨b, others, hab, -, hys⟩ := hreverse
  refine ⟨b, ?_, hab⟩
  rw [List.getLast?_eq_head?_reverse, hys, List.head?_cons]

namespace Config

variable {α : Type} {c : Config} {s : Settings} {chain : Chain} {verdict : Verdict}

/-! ## Keywords -/

/-- The form of a keyword: its letters made small, without the blanks around them. -/
def form (text : String) : List Char :=
  foldCase (trimmed text)

section Keywords

variable [Keyword α] [Keyword.Sound α] {text other : String} {a b : α}

theorem keyword_eq_ok_iff (habsent : Keyword.absent (α := α) = none) :
    keyword text = .ok a ↔ foldCase (Keyword.spelling a) = form text :=
  mapError_eq_ok_iff.trans (Keyword.read_eq_ok_iff habsent)

/-- Two texts are one keyword exactly if they have one form. -/
theorem keyword_eq_iff (habsent : Keyword.absent (α := α) = none) (ha : keyword text = .ok a)
    (hb : keyword other = .ok b) : a = b ↔ form text = form other := by
  rw [← (keyword_eq_ok_iff habsent).1 ha, ← (keyword_eq_ok_iff habsent).1 hb]
  exact ⟨congrArg fun a => foldCase (Keyword.spelling a), Keyword.Sound.foldCase_inj⟩

end Keywords

/-! ## Tables of defaults -/

/-- What an entry of a table stands for. -/
def Reads (entry : String × String) (read : Chain × Verdict) : Prop :=
  keyword entry.1 = .ok read.1 ∧ keyword entry.2 = .ok read.2

/-- The entries of a table for a chain. -/
def FilterSection.entriesFor (filter : FilterSection) (chain : Chain) : List (String × String) :=
  filter.defaults.filter fun e => form e.1 = foldCase chain.name

theorem reads_of_toDefaults {filter : FilterSection} {defaults : PerChain (Option Verdict)}
    (h : filter.toDefaults = .ok defaults) :
    ∃ reads, List.Forall₂ Reads filter.defaults reads ∧ defaults = PerChain.ofList reads := by
  obtain ⟨reads, hreads, h⟩ := bind_eq_ok_iff.1 h
  cases h
  refine ⟨reads, (mapM_eq_ok_iff.1 hreads).imp fun entry read h => ?_, rfl⟩
  simp only [bind_eq_ok_iff] at h
  obtain ⟨chain, hchain, verdict, hverdict, h⟩ := h
  cases h
  exact ⟨hchain, hverdict⟩

theorem forall₂_entriesFor {filter : FilterSection} {reads : List (Chain × Verdict)}
    (h : List.Forall₂ Reads filter.defaults reads) (chain : Chain) :
    List.Forall₂ Reads (filter.entriesFor chain) (reads.filter (·.1 = chain)) := by
  refine List.rel_filter (fun {e read} hread => ?_) h
  have hform : foldCase (Keyword.spelling read.1) = form e.1 := (keyword_eq_ok_iff rfl).1 hread.1
  simp only [decide_eq_true_eq, ← hform]
  exact ⟨Keyword.Sound.foldCase_inj, fun hsame => by rw [hsame]; rfl⟩

namespace Fits

variable (h : c.Fits s) (now : Nat)

include h

/-- Every entry of an accepted table stands for something. -/
theorem exists_reads {e : String × String} (he : e ∈ c.firewall.defaults) : ∃ read, Reads e read := by
  obtain ⟨reads, hreads, -⟩ := reads_of_toDefaults h.defaults
  obtain ⟨i, hi, rfl⟩ := List.getElem_of_mem he
  exact ⟨reads.get ⟨i, hreads.length_eq ▸ hi⟩, hreads.get hi _⟩

theorem default_eq : ∃ reads, List.Forall₂ Reads (c.firewall.entriesFor chain) reads ∧
    (s.toPlane now).firewall.default chain = (reads.getLast?.map Prod.snd).getD .drop := by
  obtain ⟨reads, hreads, hdefaults⟩ := reads_of_toDefaults h.defaults
  refine ⟨_, forall₂_entriesFor hreads chain, ?_⟩
  rw [← PerChain.get_ofList, ← hdefaults]
  rfl

/-- A chain has the default that the last entry for it says. -/
theorem default_of_getLast? {e : String × String} (he : (c.firewall.entriesFor chain).getLast? = some e)
    (hword : keyword e.2 = .ok verdict) : (s.toPlane now).firewall.default chain = verdict := by
  obtain ⟨reads, hreads, hdefault⟩ := h.default_eq now
  obtain ⟨read, hlast, hread⟩ := exists_getLast?_of_forall₂ hreads he
  rw [hdefault, hlast]
  exact (keyword_eq_iff rfl hread.2 hword).2 rfl

/-- A chain without an entry drops. -/
theorem default_of_entriesFor_eq_nil (hnone : c.firewall.entriesFor chain = []) :
    (s.toPlane now).firewall.default chain = .drop := by
  obtain ⟨reads, hreads, hdefault⟩ := h.default_eq now
  rw [hnone, List.forall₂_nil_left_iff] at hreads
  rw [hdefault, hreads]
  rfl

end Fits

theorem entriesFor_eq {key : String} (hkey : keyword key = .ok chain) :
    c.firewall.entriesFor chain = c.firewall.defaults.filter fun e => form e.1 = form key := by
  rw [FilterSection.entriesFor, ← (keyword_eq_ok_iff rfl).1 hkey]
  rfl

theorem mem_of_getLast?_entriesFor {e : String × String} (he : (c.firewall.entriesFor chain).getLast? = some e) :
    e ∈ c.firewall.defaults :=
  (List.mem_filter.1 (List.mem_of_getLast? he)).1

/-! ## Entries in force -/

/-- Every entry of the table of a configuration is in force on a router: the chain that it is for has the verdict that
it says. -/
def DefaultsHold (c : Config) (pl : Plane) : Prop :=
  ∀ e ∈ c.firewall.defaults, ∀ read, Reads e read → pl.firewall.default read.1 = read.2

/-- An entry is in force exactly if the last one behind it for the same chain, if there is any, says the same. -/
theorem Fits.in_force_iff (h : c.Fits s) (now : Nat) {before after : List (String × String)} {e : String × String}
    {read : Chain × Verdict} (htable : c.firewall.defaults = before ++ e :: after) (hread : Reads e read) :
    (s.toPlane now).firewall.default read.1 = read.2 ↔
      ∀ later, (after.filter fun x => form x.1 = form e.1).getLast? = some later → form later.2 = form e.2 := by
  have hlast : (c.firewall.entriesFor read.1).getLast? =
      some ((after.filter fun x => form x.1 = form e.1).getLast?.getD e) := by
    rw [entriesFor_eq hread.1, htable, List.filter_append, List.filter_cons_of_pos (by simp), List.getLast?_append,
      List.getLast?_cons, Option.some_or]
  cases hafter : (after.filter fun x => form x.1 = form e.1).getLast? with
  | none =>
    rw [hafter, Option.getD_none] at hlast
    exact iff_of_true (h.default_of_getLast? now hlast hread.2) fun later hlater => nomatch hlater
  | some later =>
    rw [hafter, Option.getD_some] at hlast
    obtain ⟨said, hsaid⟩ := h.exists_reads (mem_of_getLast?_entriesFor hlast)
    rw [h.default_of_getLast? now hlast hsaid.2, keyword_eq_iff rfl hsaid.2 hread.2]
    exact ⟨fun hsame _ hlater => Option.some.inj hlater ▸ hsame, fun hall => hall later rfl⟩

/-- All entries of a table are in force exactly if those for one chain agree. -/
theorem Fits.defaultsHold_iff (h : c.Fits s) (now : Nat) :
    c.DefaultsHold (s.toPlane now) ↔
      ∀ e ∈ c.firewall.defaults, ∀ e' ∈ c.firewall.defaults, form e.1 = form e'.1 → form e.2 = form e'.2 := by
  constructor
  · intro hall e he e' he' hkey
    obtain ⟨read, hread⟩ := h.exists_reads he
    obtain ⟨read', hread'⟩ := h.exists_reads he'
    have hchain : read.1 = read'.1 := (keyword_eq_iff rfl hread.1 hread'.1).2 hkey
    have hverdict : read.2 = read'.2 := by rw [← hall e he read hread, ← hall e' he' read' hread', hchain]
    exact (keyword_eq_iff rfl hread.2 hread'.2).1 hverdict
  · intro hagree e he read hread
    obtain ⟨before, after, htable⟩ := List.append_of_mem he
    refine (h.in_force_iff now htable hread).2 fun later hlater => ?_
    obtain ⟨hmem, hkey⟩ := List.mem_filter.1 (List.mem_of_getLast? hlater)
    have htable' : later ∈ c.firewall.defaults := by
      rw [htable]
      exact List.mem_append_right _ (List.mem_cons_of_mem _ hmem)
    exact hagree later htable' e he (of_decide_eq_true hkey)

/-- In a router that is built from an accepted configuration, every entry of the table of defaults is for a chain and
says a verdict, and it is in force exactly if the last one behind it for the same chain, if there is any, says the same.
A chain without an entry drops, and all entries are in force exactly if those for one chain agree. -/
theorem defaults_in_force (h : c.compile = .ok s) (now : Nat) :
    (∀ before e after, c.firewall.defaults = before ++ e :: after → ∃ read, Reads e read ∧
      ((s.toPlane now).firewall.default read.1 = read.2 ↔
        ∀ later, (after.filter fun x => form x.1 = form e.1).getLast? = some later → form later.2 = form e.2)) ∧
      (∀ chain, c.firewall.entriesFor chain = [] → (s.toPlane now).firewall.default chain = .drop) ∧
      (c.DefaultsHold (s.toPlane now) ↔
        ∀ e ∈ c.firewall.defaults, ∀ e' ∈ c.firewall.defaults, form e.1 = form e'.1 → form e.2 = form e'.2) := by
  obtain ⟨-, hfits⟩ := fits_of_compile h
  refine ⟨fun before e after htable => ?_, fun chain => hfits.default_of_entriesFor_eq_nil now,
    hfits.defaultsHold_iff now⟩
  have he : e ∈ c.firewall.defaults := by
    rw [htable]
    exact List.mem_append_right _ List.mem_cons_self
  obtain ⟨read, hread⟩ := hfits.exists_reads he
  exact ⟨read, hread, hfits.in_force_iff now htable hread⟩

/-- The router of the office under other defaults. -/
def officeUnder (defaults : List (String × String)) : Config :=
  { officeConfig "web" "8000-8080" with firewall := ⟨defaults, []⟩ }

/-- Of two keys for one chain the later one counts, so that a chain accepts packets that an entry says to drop. -/
theorem forward_overridden :
    ¬ ∀ (c : Config) (s : Settings) (now : Nat), c.compile = .ok s → c.DefaultsHold (s.toPlane now) := by
  intro hall
  obtain ⟨s, hcompile, haccept⟩ : ∃ s, (officeUnder [("FORWARD", "DROP"), ("forward", "ACCEPT")]).compile = .ok s ∧
      (s.toPlane 0).firewall.default .forward = .accept := ⟨_, rfl, by decide⟩
  have hdrop := hall _ s 0 hcompile ("FORWARD", "DROP") (by decide) (.forward, .drop) ⟨by decide, by decide⟩
  rw [haccept] at hdrop
  cases hdrop

/-- An entry whose chain has no other is in force beside two entries for one chain that disagree. -/
theorem input_in_force :
    ∃ s, (officeUnder [(" Input ", "accept"), ("FORWARD", "DROP"), ("forward", "ACCEPT")]).compile = .ok s ∧
      (s.toPlane 0).firewall.default .input = .accept ∧
      ¬ (officeUnder [(" Input ", "accept"), ("FORWARD", "DROP"), ("forward", "ACCEPT")]).DefaultsHold
        (s.toPlane 0) := by
  obtain ⟨s, hcompile⟩ : ∃ s,
      (officeUnder [(" Input ", "accept"), ("FORWARD", "DROP"), ("forward", "ACCEPT")]).compile = .ok s := ⟨_, rfl⟩
  obtain ⟨hentries, -, hall⟩ := defaults_in_force hcompile 0
  obtain ⟨⟨chain, verdict⟩, ⟨hchain, hverdict⟩, hforce⟩ :=
    hentries [] (" Input ", "accept") [("FORWARD", "DROP"), ("forward", "ACCEPT")] rfl
  have hinput : chain = .input := Except.ok.inj (hchain.symm.trans (by decide))
  have haccept : verdict = .accept := Except.ok.inj (hverdict.symm.trans (by decide))
  have hnone : (([("FORWARD", "DROP"), ("forward", "ACCEPT")] : List (String × String)).filter fun x =>
      form x.1 = form " Input ").getLast? = none := by decide
  rw [hinput, haccept] at hforce
  refine ⟨s, hcompile, hforce.2 fun later hlater => ?_, fun hhold => ?_⟩
  · exact absurd (hnone.symm.trans hlater) (Option.some_ne_none later).symm
  · exact absurd (hall.1 hhold ("FORWARD", "DROP") (by decide) ("forward", "ACCEPT") (by decide) (by decide))
      (by decide)

end Config

end Router
