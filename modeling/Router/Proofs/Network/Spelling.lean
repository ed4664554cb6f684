import Mathlib.Data.List.Induction
import Router.Proofs.Network

/-!
# The spellings of networks and port ranges

A decimal number is read from its digits behind any number of zeros and perhaps a plus sign, and from nothing else
(`Decimal.read?_eq_some_iff`); so is a port, between blanks (`PortRange.port?_eq_some_iff`). Hence the texts of a
network and of a port range, without regard to a reader (`Network.read?_eq_some_iff`,
`PortRange.read?_eq_some_iff`). Of all of them one is written, and it is read as the same value. Main statement:
`texts_canonical`.
-/

namespace Router

open Text

namespace Text

/-! ## Numbers -/

namespace Decimal

/-- The texts of a number: perhaps a plus sign, any number of zeros, and its digits. -/
inductive Spells (n : Nat) : List Char → Prop
  | plain (zeros : Nat) : Spells n (List.replicate zeros '0' ++ chars n)
  | signed (zeros : Nat) : Spells n ('+' :: (List.replicate zeros '0' ++ chars n))

theorem digitChar_digitValue {c : Char} (h : c.isDigit = true) :
    digitValue c < 10 ∧ Nat.digitChar (digitValue c) = c := by
  have hchar : ∀ n < 58, 48 ≤ n → n - 48 < 10 ∧ Nat.digitChar (n - 48) = Char.ofNat n := by decide
  have hdigit : 48 ≤ c.toNat ∧ c.toNat ≤ 57 := by simpa [Char.isDigit, UInt32.le_iff_toNat_le] using h
  have hc := hchar c.toNat (Nat.lt_succ_of_le hdigit.2) hdigit.1
  rwa [Char.ofNat_toNat] at hc

theorem value_zeros_append (zeros : Nat) (cs : List Char) : value (List.replicate zeros '0' ++ cs) = value cs := by
  induction zeros with
  | zero => rfl
  | succ zeros ih => rw [List.replicate_succ, List.cons_append, ← ih]; rfl

theorem chars_mul_ten_add {m d : Nat} (hm : 0 < m) (hd : d < 10) :
    chars (m * 10 + d) = chars m ++ [Nat.digitChar d] := by
  have hquotient : (m * 10 + d) / 10 = m := by omega
  have hrest : (m * 10 + d) % 10 = d := by omega
  rw [chars, Nat.toDigits_of_base_le (by decide) (by omega), hquotient, hrest, chars]

/-- Digits are zeros and the digits of their number. -/
theorem exists_zeros {cs : List Char} (hne : cs ≠ []) (h : ∀ c ∈ cs, c.isDigit = true) :
    ∃ zeros, cs = List.replicate zeros '0' ++ chars (value cs) := by
  induction cs using List.reverseRecOn with
  | nil => exact absurd rfl hne
  | append_singleton cs c ih =>
    obtain ⟨hcs, hc⟩ := List.forall_mem_append.1 h
    obtain ⟨hlt, hchar⟩ := digitChar_digitValue (hc c (List.mem_singleton_self c))
    have hsingle : chars (digitValue c) = [c] := by rw [chars, Nat.toDigits_of_lt_base hlt, hchar]
    rw [value_append_singleton]
    by_cases hnil : cs = []
    · refine ⟨0, ?_⟩
      rw [hnil]
      exact hsingle.symm.trans (congrArg chars (Nat.zero_add _).symm)
    obtain ⟨zeros, hzeros⟩ := ih hnil hcs
    rcases Nat.eq_zero_or_pos (value cs) with hvalue | hvalue
    · -- What stands before the digit are zeros only, one of which was the digit of zero.
      refine ⟨zeros + 1, ?_⟩
      rw [hvalue] at hzeros ⊢
      rw [Nat.zero_mul, Nat.zero_add, hsingle, List.replicate_succ', hzeros]
      rfl
    · refine ⟨zeros, ?_⟩
      rw [chars_mul_ten_add hvalue hlt, hchar, ← List.append_assoc, ← hzeros]

theorem unsigned_of_forall {cs : List Char} (h : ∀ c ∈ cs, c.isDigit = true) : unsigned cs = cs := by
  unfold unsigned
  split
  · rename_i rest
    cases h '+' List.mem_cons_self
  · rfl

theorem isDigit_of_mem_zeros_append (zeros n : Nat) : ∀ c ∈ List.replicate zeros '0' ++ chars n, c.isDigit = true := by
  refine List.forall_mem_append.2 ⟨fun c hc => ?_, isDigit_of_mem_chars n⟩
  rw [List.eq_of_mem_replicate hc]
  rfl

theorem digits?_eq_some_iff {cs : List Char} {n : Nat} :
    digits? cs = some n ↔ ∃ zeros, cs = List.replicate zeros '0' ++ chars n := by
  rw [digits?]
  constructor
  · intro h
    split at h
    case isTrue hdigits =>
      cases h
      exact exists_zeros hdigits.1 (List.all_eq_true.1 hdigits.2)
    case isFalse => cases h
  · rintro ⟨zeros, rfl⟩
    have hne : List.replicate zeros '0' ++ chars n ≠ [] := List.append_ne_nil_of_right_ne_nil _ (chars_ne_nil n)
    have hdigits := List.all_eq_true.2 (isDigit_of_mem_zeros_append zeros n)
    rw [if_pos ⟨hne, hdigits⟩, value_zeros_append, value_chars]

/-- A number within the bound is read from its texts, and nothing else is read. -/
theorem read?_eq_some_iff {bound n : Nat} {cs : List Char} : read? bound cs = some n ↔ Spells n cs ∧ n ≤ bound := by
  rw [read?, Option.filter_eq_some_iff, digits?_eq_some_iff, decide_eq_true_iff]
  refine and_congr_left fun _ => ⟨?_, fun h => ?_⟩
  · rintro ⟨zeros, hzeros⟩
    unfold unsigned at hzeros
    split at hzeros
    · rw [hzeros]
      exact .signed zeros
    · rw [hzeros]
      exact .plain zeros
  · cases h with
    | plain zeros => exact ⟨zeros, unsigned_of_forall (isDigit_of_mem_zeros_append zeros n)⟩
    | signed zeros => exact ⟨zeros, rfl⟩

/-- A text is the text of one number only. -/
theorem Spells.unique {n m : Nat} {cs : List Char} (hn : Spells n cs) (hm : Spells m cs) : n = m := by
  have hreadn : read? (max n m) cs = some n := read?_eq_some_iff.2 ⟨hn, Nat.le_max_left n m⟩
  have hreadm : read? (max n m) cs = some m := read?_eq_some_iff.2 ⟨hm, Nat.le_max_right n m⟩
  exact Option.some.inj (hreadn.symm.trans hreadm)

theorem Spells.not_isBlank {n : Nat} {cs : List Char} (h : Spells n cs) : ∀ c ∈ cs, isBlank c = false := by
  cases h with
  | plain zeros => exact fun c hc => isBlank_of_isDigit (isDigit_of_mem_zeros_append zeros n c hc)
  | signed zeros =>
    refine List.forall_mem_cons.2 ⟨rfl, fun c hc => ?_⟩
    exact isBlank_of_isDigit (isDigit_of_mem_zeros_append zeros n c hc)

end Decimal

/-! ## Blanks around a text -/

theorem exists_trim (cs : List Char) : ∃ front back, (∀ c ∈ front, isBlank c = true) ∧
    (∀ c ∈ back, isBlank c = true) ∧ cs = front ++ trim cs ++ back := by
  refine ⟨cs.takeWhile isBlank, ((cs.dropWhile isBlank).reverse.takeWhile isBlank).reverse,
    fun c hc => List.mem_takeWhile_imp hc, fun c hc => List.mem_takeWhile_imp (List.mem_reverse.1 hc), ?_⟩
  rw [trim, List.append_assoc, ← List.reverse_append, List.takeWhile_append_dropWhile, List.reverse_reverse,
    List.takeWhile_append_dropWhile]

theorem trim_append {front core back : List Char} (hfront : ∀ c ∈ front, isBlank c = true)
    (hcore : ∀ c ∈ core, isBlank c = false) (hback : ∀ c ∈ back, isBlank c = true) :
    trim (front ++ core ++ back) = trim core := by
  rw [trim, List.append_assoc, List.dropWhile_append_of_pos hfront]
  cases core with
  | nil =>
    rw [List.nil_append, List.dropWhile_eq_nil_iff.2 hback]
    rfl
  | cons c core =>
    have hc := hcore c List.mem_cons_self
    have hreverse : ∀ c ∈ back.reverse, isBlank c = true := fun c hc => hback c (List.mem_reverse.1 hc)
    rw [List.cons_append, List.dropWhile_cons_of_neg (by simp [hc]), ← List.cons_append, List.reverse_append,
      List.dropWhile_append_of_pos hreverse, trim, List.dropWhile_cons_of_neg (by simp [hc])]

/-- What is written for the value that a text is read as, if it is read. -/
def canonical? {α : Type} [ToString α] (ofString? : String → Option α) (s : String) : Option String :=
  (ofString? s).map toString

theorem canonical?_idem {α : Type} [ToString α] {ofString? : String → Option α}
    (h : ∀ s a, ofString? s = some a → ofString? (toString a) = some a) (s : String) :
    (canonical? ofString? s).bind (canonical? ofString?) = canonical? ofString? s := by
  cases hread : ofString? s with
  | none => rw [canonical?, hread]; rfl
  | some a =>
    have hcanonical : canonical? ofString? s = some (toString a) := by rw [canonical?, hread]; rfl
    rw [hcanonical, Option.bind_some, canonical?, h s a hread]
    rfl

end Text

/-! ## Networks -/

namespace Network

/-- The texts of a network: an address, or an address, a slash and a number of bits that the address has. -/
inductive Spells : Network → List Char → Prop
  | host {a : Address} {cs : List Char} (bare : '/' ∉ cs) (address : Address.read? cs = some a) : Spells (host a) cs
  | around {a : Address} {length : Nat} {l r : List Char} (first : '/' ∉ l) (address : Address.read? l = some a)
    (number : Decimal.Spells length r) (fits : length ≤ maxLength a) : Spells (around a length) (l ++ '/' :: r)

theorem read?_eq_some_iff {n : Network} {cs : List Char} : read? cs = some n ↔ n.Spells cs := by
  constructor
  · intro h
    rw [read?] at h
    split at h
    case h_1 hcut =>
      obtain ⟨a, haddress, rfl⟩ := Option.map_eq_some_iff.1 h
      exact .host (cut?_eq_none_iff.1 hcut) haddress
    case h_2 l r hcut =>
      obtain ⟨rfl, hfirst⟩ := eq_of_cut?_eq_some hcut
      obtain ⟨a, haddress, h⟩ := Option.bind_eq_some_iff.1 h
      obtain ⟨length, hnumber, h⟩ := Option.bind_eq_some_iff.1 h
      split at h
      case isTrue => cases h
      case isFalse hless =>
        cases h
        exact .around hfirst haddress (Decimal.read?_eq_some_iff.1 hnumber).1 (Nat.not_lt.1 hless)
  · intro h
    cases h with
    | host hbare haddress => rw [read?, cut?_eq_none_iff.2 hbare]; exact congrArg (Option.map host) haddress
    | @around a length l r hfirst haddress hnumber hfits =>
      have hbound : length ≤ 255 := hfits.trans ((maxLength_le a).trans (by decide))
      rw [read?, cut?_append hfirst]
      simp only [haddress, Decimal.read?_eq_some_iff.2 ⟨hnumber, hbound⟩, Option.bind_eq_bind, Option.bind_some]
      rw [if_neg (Nat.not_lt.2 hfits), Option.pure_def]

theorem length_around (a : Address) (length : Nat) : (around a length).length = min length (maxLength a) := by
  cases a <;> rfl

/-- The number behind the slash is the length of the network that is read. -/
theorem length_of_read? {n : Network} {l r : List Char} {length : Nat} (h : read? (l ++ '/' :: r) = some n)
    (hfirst : '/' ∉ l) (hnumber : Decimal.Spells length r) : n.length = length := by
  rw [read?, cut?_append hfirst] at h
  obtain ⟨a, -, h⟩ := Option.bind_eq_some_iff.1 h
  obtain ⟨length', hread, h⟩ := Option.bind_eq_some_iff.1 h
  obtain rfl : length = length' := hnumber.unique (Decimal.read?_eq_some_iff.1 hread).1
  split at h
  case isTrue => cases h
  case isFalse hless =>
    cases h
    rw [length_around, Nat.min_eq_left (Nat.not_lt.1 hless)]

end Network

/-! ## Port ranges -/

namespace PortRange

/-- The texts of a port: those of its number, between blanks. -/
inductive SpellsPort (port : UInt16) : List Char → Prop
  | between {front digits back : List Char} (hfront : ∀ c ∈ front, isBlank c = true)
    (number : Decimal.Spells port.toNat digits) (hback : ∀ c ∈ back, isBlank c = true) :
    SpellsPort port (front ++ digits ++ back)

/-- The texts of a range: one of a port, or two with a hyphen, the first port not above the last. -/
inductive Spells : PortRange → List Char → Prop
  | single {port : UInt16} {cs : List Char} (bare : '-' ∉ cs) (number : SpellsPort port cs) : Spells (single port) cs
  | ends {first last : UInt16} {l r : List Char} (left : '-' ∉ l) (lower : SpellsPort first l)
    (upper : SpellsPort last r) (ordered : first ≤ last) : Spells ⟨first, last⟩ (l ++ '-' :: r)

theorem port?_eq_some_iff {port : UInt16} {cs : List Char} : port? cs = some port ↔ SpellsPort port cs := by
  constructor
  · intro h
    obtain ⟨n, hread, rfl⟩ := Option.map_eq_some_iff.1 h
    obtain ⟨hnumber, hbound⟩ := Decimal.read?_eq_some_iff.1 hread
    obtain ⟨front, back, hfront, hback, hcs⟩ := exists_trim cs
    have hport : (UInt16.ofNat n).toNat = n := UInt16.toNat_ofNat_of_lt (Nat.lt_succ_of_le hbound)
    rw [hcs]
    exact .between hfront (hport.symm ▸ hnumber) hback
  · intro h
    cases h with
    | between hfront hnumber hback =>
      have hread := Decimal.read?_eq_some_iff.2 ⟨hnumber, Nat.le_of_lt_succ port.toNat_lt⟩
      rw [port?, trim_append hfront hnumber.not_isBlank hback, trim_of_forall hnumber.not_isBlank, hread,
        Option.map_some, UInt16.ofNat_toNat]

theorem read?_eq_some_iff {range : PortRange} {cs : List Char} : read? cs = some range ↔ range.Spells cs := by
  constructor
  · intro h
    rw [read?] at h
    split at h
    case h_1 hcut =>
      obtain ⟨port, hport, rfl⟩ := Option.map_eq_some_iff.1 h
      exact .single (cut?_eq_none_iff.1 hcut) (port?_eq_some_iff.1 hport)
    case h_2 l r hcut =>
      obtain ⟨rfl, hleft⟩ := eq_of_cut?_eq_some hcut
      obtain ⟨first, hfirst, h⟩ := Option.bind_eq_some_iff.1 h
      obtain ⟨last, hlast, h⟩ := Option.bind_eq_some_iff.1 h
      split at h
      case isTrue => cases h
      case isFalse hless =>
        cases h
        exact .ends hleft (port?_eq_some_iff.1 hfirst) (port?_eq_some_iff.1 hlast) (UInt16.not_lt.1 hless)
  · intro h
    cases h with
    | single hbare hnumber =>
      rw [read?, cut?_eq_none_iff.2 hbare]
      exact congrArg (Option.map PortRange.single) (port?_eq_some_iff.2 hnumber)
    | ends hleft hlower hupper hordered =>
      rw [read?, cut?_append hleft]
      simp only [port?_eq_some_iff.2 hlower, port?_eq_some_iff.2 hupper, Option.bind_eq_bind, Option.bind_some]
      rw [if_neg (UInt16.not_lt.2 hordered), Option.pure_def]

end PortRange

/-- What is written for a network or a range with a port is read as the same. What is read are the texts of a value,
and of these the one that is written is read as that value again: to read and write twice is to do it once. A network
that is read is as long as the number behind the slash says, and no longer than its addresses; no range that is read
ends before it starts. -/
theorem texts_canonical :
    (∀ n : Network, Network.ofString? (toString n) = some n) ∧
      (∀ r : PortRange, r.first ≤ r.last → PortRange.ofString? (toString r) = some r) ∧
      (∀ s n, Network.ofString? s = some n ↔ n.Spells s.toList) ∧
      (∀ s r, PortRange.ofString? s = some r ↔ r.Spells s.toList) ∧
      (∀ s n, Network.ofString? s = some n →
        n.length ≤ Network.maxLength n.base ∧ Network.ofString? (toString n) = some n ∧
          ∀ l r length, s.toList = l ++ '/' :: r → '/' ∉ l → Decimal.Spells length r → n.length = length) ∧
      (∀ s r, PortRange.ofString? s = some r → r.first ≤ r.last ∧ PortRange.ofString? (toString r) = some r) ∧
      (∀ s, (canonical? Network.ofString? s).bind (canonical? Network.ofString?) = canonical? Network.ofString? s) ∧
      ∀ s, (canonical? PortRange.ofString? s).bind (canonical? PortRange.ofString?) =
        canonical? PortRange.ofString? s := by
  have hrange : ∀ s r, PortRange.ofString? s = some r →
      r.first ≤ r.last ∧ PortRange.ofString? (toString r) = some r := by
    intro s r h
    have hordered := PortRange.first_le_last_of_read? h
    exact ⟨hordered, PortRange.ofString?_toString hordered⟩
  have hnetwork : ∀ s n l r length, Network.ofString? s = some n → s.toList = l ++ '/' :: r → '/' ∉ l →
      Decimal.Spells length r → n.length = length := by
    intro s n l r length h hcut hfirst hnumber
    rw [Network.ofString?, hcut] at h
    exact Network.length_of_read? h hfirst hnumber
  exact ⟨Network.ofString?_toString, fun r => PortRange.ofString?_toString, fun s n => Network.read?_eq_some_iff,
    fun s r => PortRange.read?_eq_some_iff,
    fun s n h => ⟨n.length_le_maxLength, n.ofString?_toString, fun l r length => hnetwork s n l r length h⟩, hrange,
    canonical?_idem fun _ n _ => n.ofString?_toString, canonical?_idem fun s r h => (hrange s r h).2⟩

/-- A sign, zeros, host bits and blanks are read and not written. -/
theorem texts_canonical_loose :
    Network.ofString? "10.1.2.3/+08" = some (.around (.v4 0x0A000000) 8) ∧
      (canonical? Network.ofString? "10.1.2.3/+08").bind (canonical? Network.ofString?) = some "10.0.0.0/8" ∧
      PortRange.ofString? " +080 - 0090 " = some ⟨80, 90⟩ ∧
      (80 : UInt16) ≤ 90 ∧ PortRange.ofString? (toString (PortRange.mk 80 90)) = some ⟨80, 90⟩ := by
  obtain ⟨-, -, -, -, -, hrange, hnetwork, -⟩ := texts_canonical
  have hread : PortRange.ofString? " +080 - 0090 " = some ⟨80, 90⟩ := by decide
  obtain ⟨hordered, hback⟩ := hrange _ _ hread
  refine ⟨by decide, ?_, hread, hordered, hback⟩
  rw [hnetwork]
  decide

end Router
