import Mathlib.Data.List.Basic
import Router.Hex
import Router.Proofs.Outcome

/-!
# Hexadecimal text and octets

A text spells octets if it has two digits of either case for each (`Spells`); such texts are the digits in even number
(`exists_spells_iff`), and what is written for octets spells them (`spells_encode`). Of a reader it is asked that it
takes what is spelled and refuses an odd number of characters and every character that is no digit (`Decodes`); then it
reads octets from their texts and nothing else (`Decodes.eq_ok_iff`). Main statement: this holds of the reader here
(`decodes_read`), though it looks at the UTF-8 form, where a character that is not ASCII has an octet that is no digit
(`exists_mem_utf8EncodeChar`).
-/

namespace Router.Hex

/-! ## Digits -/

/-- The characters for a half octet: its digit, small or capital. -/
def IsDigit (v : Nat) (c : Char) : Prop :=
  v < 16 ∧ (c = Nat.digitChar v ∨ c = (Nat.digitChar v).toUpper)

instance (v : Nat) (c : Char) : Decidable (IsDigit v c) :=
  inferInstanceAs (Decidable (_ ∧ _))

/-- The digits of either case. -/
def alphabet : List Char :=
  "0123456789abcdefABCDEF".toList

/-- An ASCII character as an octet. -/
def octet (c : Char) : UInt8 :=
  UInt8.ofNat c.toNat

variable {v : Nat} {c : Char} {b : UInt8}

/-- What holds of every digit is seen by going through them. -/
theorem forall_mem_alphabet {P : Char → Prop} [DecidablePred P] (h : alphabet.all (P ·) = true) :
    ∀ c ∈ alphabet, P c :=
  fun c hc => of_decide_eq_true (List.all_eq_true.1 h c hc)

theorem mem_alphabet_iff : c ∈ alphabet ↔ ∃ v, IsDigit v c := by
  have hvalue : ∀ c ∈ alphabet, ∃ v < 16, c = Nat.digitChar v ∨ c = (Nat.digitChar v).toUpper :=
    forall_mem_alphabet (by decide)
  have hdigit : ∀ v < 16, Nat.digitChar v ∈ alphabet ∧ (Nat.digitChar v).toUpper ∈ alphabet := by decide
  constructor
  · intro hc
    obtain ⟨v, hv⟩ := hvalue c hc
    exact ⟨v, hv⟩
  · rintro ⟨v, hv, rfl | rfl⟩
    · exact (hdigit v hv).1
    · exact (hdigit v hv).2

theorem toNat_lt_of_mem_alphabet : ∀ c ∈ alphabet, c.toNat < 128 :=
  forall_mem_alphabet (by decide)

theorem digitValue?_octet (h : IsDigit v c) : digitValue? (octet c) = some (UInt8.ofNat v) := by
  have hvalue : ∀ v < 16, digitValue? (octet (Nat.digitChar v)) = some (UInt8.ofNat v) ∧
      digitValue? (octet (Nat.digitChar v).toUpper) = some (UInt8.ofNat v) := by decide
  obtain ⟨hv, rfl | rfl⟩ := h
  · exact (hvalue v hv).1
  · exact (hvalue v hv).2

/-- An octet with a value is that of a digit for it. -/
theorem exists_isDigit_of_digitValue? {w : UInt8} (h : digitValue? b = some w) :
    ∃ c, IsDigit w.toNat c ∧ b = octet c := by
  have hvalue : ∀ n < 256, ∀ w ∈ digitValue? (UInt8.ofNat n), w.toNat < 16 ∧
      (UInt8.ofNat n = octet (Nat.digitChar w.toNat) ∨ UInt8.ofNat n = octet (Nat.digitChar w.toNat).toUpper) := by
    decide +kernel
  have hb : b = UInt8.ofNat b.toNat := UInt8.ofNat_toNat.symm
  rw [hb] at h ⊢
  obtain ⟨hw, heq | heq⟩ := hvalue b.toNat b.toNat_lt w h
  · exact ⟨_, ⟨hw, .inl rfl⟩, heq⟩
  · exact ⟨_, ⟨hw, .inr rfl⟩, heq⟩

/-! ## Texts of octets -/

/-- A text of digits for octets, the high half of each first. -/
inductive Spells : List UInt8 → List Char → Prop
  | nil : Spells [] []
  | cons {b : UInt8} {high low : Char} {bytes : List UInt8} {cs : List Char} (hhigh : IsDigit (b.toNat / 16) high)
      (hlow : IsDigit (b.toNat % 16) low) (rest : Spells bytes cs) : Spells (b :: bytes) (high :: low :: cs)

variable {bytes : List UInt8} {cs : List Char}

theorem spells_cons_iff {high low : Char} : Spells (b :: bytes) (high :: low :: cs) ↔
    IsDigit (b.toNat / 16) high ∧ IsDigit (b.toNat % 16) low ∧ Spells bytes cs := by
  constructor
  · rintro (_ | ⟨hhigh, hlow, rest⟩)
    exact ⟨hhigh, hlow, rest⟩
  · rintro ⟨hhigh, hlow, rest⟩
    exact .cons hhigh hlow rest

/-- Whether a text spells octets is seen digit by digit. -/
instance decidableSpells : (bytes : List UInt8) → (cs : List Char) → Decidable (Spells bytes cs)
  | [], [] => .isTrue .nil
  | [], _ :: _ => .isFalse nofun
  | _ :: _, [] => .isFalse nofun
  | _ :: _, [_] => .isFalse nofun
  | _ :: bytes, _ :: _ :: cs =>
    haveI := decidableSpells bytes cs
    decidable_of_iff _ spells_cons_iff.symm

theorem Spells.mem_alphabet (h : Spells bytes cs) : ∀ c ∈ cs, c ∈ alphabet := by
  induction h with
  | nil => exact List.forall_mem_nil _
  | cons hhigh hlow rest ih =>
    have hrest := List.forall_mem_cons.2 ⟨mem_alphabet_iff.2 ⟨_, hlow⟩, ih⟩
    exact List.forall_mem_cons.2 ⟨mem_alphabet_iff.2 ⟨_, hhigh⟩, hrest⟩

theorem Spells.length_eq (h : Spells bytes cs) : cs.length = 2 * bytes.length := by
  induction h with
  | nil => rfl
  | cons hhigh hlow rest ih => simp only [List.length_cons, ih]; omega

theorem Spells.eq_nil_iff (h : Spells bytes cs) : bytes = [] ↔ cs = [] := by
  cases h with
  | nil => exact iff_of_true rfl rfl
  | cons => exact iff_of_false (List.cons_ne_nil _ _) (List.cons_ne_nil _ _)

/-- Two half octets are the halves of one octet. -/
theorem exists_halves {high low : Nat} (hhigh : high < 16) (hlow : low < 16) :
    ∃ b : UInt8, b.toNat / 16 = high ∧ b.toNat % 16 = low := by
  have htoNat : (UInt8.ofNat (high * 16 + low)).toNat = high * 16 + low := by
    rw [UInt8.toNat_ofNat', Nat.mod_eq_of_lt (by omega)]
  exact ⟨UInt8.ofNat (high * 16 + low), by omega, by omega⟩

theorem exists_spells : ∀ {cs : List Char}, cs.length % 2 = 0 → (∀ c ∈ cs, c ∈ alphabet) → ∃ bytes, Spells bytes cs
  | [], _, _ => ⟨[], .nil⟩
  | [_], heven, _ => by cases heven
  | high :: low :: cs, heven, hdigits => by
    obtain ⟨hhigh, hrest⟩ := List.forall_mem_cons.1 hdigits
    obtain ⟨hlow, hcs⟩ := List.forall_mem_cons.1 hrest
    obtain ⟨v, hv⟩ := mem_alphabet_iff.1 hhigh
    obtain ⟨w, hw⟩ := mem_alphabet_iff.1 hlow
    obtain ⟨b, rfl, rfl⟩ := exists_halves hv.1 hw.1
    obtain ⟨bytes, hbytes⟩ := exists_spells (by simp only [List.length_cons] at heven; omega) hcs
    exact ⟨b :: bytes, .cons hv hw hbytes⟩

/-- The texts of octets are the digits in even number. -/
theorem exists_spells_iff : (∃ bytes, Spells bytes cs) ↔ cs.length % 2 = 0 ∧ ∀ c ∈ cs, c ∈ alphabet := by
  constructor
  · rintro ⟨bytes, h⟩
    exact ⟨by rw [h.length_eq, Nat.mul_mod_right], h.mem_alphabet⟩
  · rintro ⟨heven, hdigits⟩
    exact exists_spells heven hdigits

/-- What is written for octets spells them. -/
theorem spells_encode (bytes : List UInt8) : Spells bytes (encode bytes).toList := by
  rw [encode, String.toList_ofList]
  induction bytes with
  | nil => exact .nil
  | cons b bytes ih =>
    have hb := b.toNat_lt
    have hhigh : (b / 16).toNat = b.toNat / 16 := rfl
    have hlow : (b % 16).toNat = b.toNat % 16 := rfl
    refine .cons ⟨by omega, .inl ?_⟩ ⟨by omega, .inl ?_⟩ ih
    · rw [digitChar, hhigh]
    · rw [digitChar, hlow]

/-! ## Readers -/

/-- What is asked of a reader of hexadecimal text: digits of either case are octets, two for each, and an odd number of
characters or one that is no digit is a fault. -/
structure Decodes (decode : String → Except String (List UInt8)) : Prop where
  spelled {text : String} {bytes : List UInt8} (h : Spells bytes text.toList) : decode text = .ok bytes
  odd {text : String} (h : text.toList.length % 2 = 1) : ∃ reason, decode text = .error reason
  stray {text : String} {c : Char} (hc : c ∈ text.toList) (h : c ∉ alphabet) : ∃ reason, decode text = .error reason

namespace Decodes

variable {decode : String → Except String (List UInt8)} (h : Decodes decode)
include h

theorem exists_error (hcs : ∀ bytes, ¬ Spells bytes cs) : ∃ reason, decode (String.ofList cs) = .error reason := by
  by_cases heven : cs.length % 2 = 0
  · have hstray : ¬ ∀ c ∈ cs, c ∈ alphabet := fun hdigits =>
      not_exists.2 hcs (exists_spells_iff.2 ⟨heven, hdigits⟩)
    obtain ⟨c, hc, hnot⟩ : ∃ c ∈ cs, c ∉ alphabet := by simpa using hstray
    exact h.stray (by rwa [String.toList_ofList]) hnot
  · refine h.odd ?_
    rw [String.toList_ofList]
    omega

/-- Octets are read from their texts, and nothing else is read. -/
theorem eq_ok_iff : decode (String.ofList cs) = .ok bytes ↔ Spells bytes cs := by
  constructor
  · intro hread
    by_contra hnot
    by_cases hother : ∃ others, Spells others cs
    · obtain ⟨others, hothers⟩ := hother
      have hsame : decode (String.ofList cs) = .ok others := h.spelled (by rwa [String.toList_ofList])
      rw [hread, Except.ok.injEq] at hsame
      exact hnot (hsame ▸ hothers)
    · obtain ⟨reason, herror⟩ := h.exists_error (not_exists.1 hother)
      rw [hread] at herror
      cases herror
  · intro hcs
    exact h.spelled (by rwa [String.toList_ofList])

end Decodes

/-! ## Digits as octets -/

theorem digit_eq_ok_iff {position : Nat} {w : UInt8} : digit b position = .ok w ↔ digitValue? b = some w := by
  unfold digit
  cases digitValue? b <;> simp

theorem decodePairs_of_spells (h : Spells bytes cs) (position : Nat) :
    decodePairs position (cs.map octet) = .ok bytes := by
  induction h generalizing position with
  | nil => rfl
  | @cons b high low bytes cs hhigh hlow rest ih =>
    have hb : UInt8.ofNat (b.toNat / 16) * 16 + UInt8.ofNat (b.toNat % 16) = b := by
      apply UInt8.toNat_inj.1
      have hlt := b.toNat_lt
      simp only [UInt8.toNat_add, UInt8.toNat_mul, UInt8.toNat_ofNat', UInt8.reduceToNat]
      omega
    rw [List.map_cons, List.map_cons, decodePairs, digit_eq_ok_iff.2 (digitValue?_octet hhigh),
      digit_eq_ok_iff.2 (digitValue?_octet hlow)]
    refine (bind_eq_ok_iff.2 ⟨_, rfl, bind_eq_ok_iff.2 ⟨_, rfl, bind_eq_ok_iff.2 ⟨bytes, ih _, ?_⟩⟩⟩)
    rw [hb]
    rfl

theorem spells_of_decodePairs : ∀ {text : List UInt8} {position : Nat} {bytes : List UInt8},
    decodePairs position text = .ok bytes → ∃ cs, Spells bytes cs ∧ text = cs.map octet
  | [], _, _, h => by
    cases h
    exact ⟨[], .nil, rfl⟩
  | [_], _, _, h => by cases h
  | a :: b :: rest, position, bytes, h => by
    rw [decodePairs] at h
    obtain ⟨high, hhigh, h⟩ := bind_eq_ok_iff.1 h
    obtain ⟨low, hlow, h⟩ := bind_eq_ok_iff.1 h
    obtain ⟨tail, htail, h⟩ := bind_eq_ok_iff.1 h
    cases h
    obtain ⟨c, hc, rfl⟩ := exists_isDigit_of_digitValue? (digit_eq_ok_iff.1 hhigh)
    obtain ⟨d, hd, rfl⟩ := exists_isDigit_of_digitValue? (digit_eq_ok_iff.1 hlow)
    obtain ⟨cs, hcs, rfl⟩ := spells_of_decodePairs htail
    have htoNat : (high * 16 + low).toNat = high.toNat * 16 + low.toNat := by
      have hlt := hc.1
      have hlt' := hd.1
      simp only [UInt8.toNat_add, UInt8.toNat_mul, UInt8.reduceToNat]
      omega
    have hlow : low.toNat < 16 := hd.1
    refine ⟨c :: d :: cs, .cons ?_ ?_ hcs, rfl⟩
    · rwa [htoNat, show (high.toNat * 16 + low.toNat) / 16 = high.toNat by omega]
    · rwa [htoNat, show (high.toNat * 16 + low.toNat) % 16 = low.toNat by omega]

/-- Octets are read from the ASCII form of their texts, and nothing else is read. -/
theorem decode_eq_ok_iff {text : List UInt8} :
    decode text = .ok bytes ↔ ∃ cs, Spells bytes cs ∧ text = cs.map octet := by
  constructor
  · intro h
    unfold decode at h
    split at h
    · cases h
    · exact spells_of_decodePairs h
  · rintro ⟨cs, hcs, rfl⟩
    have heven : (cs.map octet).length % 2 ≠ 1 := by
      rw [List.length_map, hcs.length_eq]
      omega
    rw [decode, if_neg heven]
    exact decodePairs_of_spells hcs 0

/-! ## The UTF-8 form -/

section Utf8

theorem toList_loop (bytes : ByteArray) (i : Nat) (acc : List UInt8) :
    ByteArray.toList.loop bytes i acc = acc.reverse ++ bytes.data.toList.drop i := by
  fun_induction ByteArray.toList.loop bytes i acc with
  | case1 i acc hi ih =>
    have hlength : i < bytes.data.toList.length := hi
    have hget : bytes.get! i = bytes.data.toList[i] := getElem!_pos bytes.data i hi
    rw [ih, List.drop_eq_getElem_cons hlength, hget, List.reverse_cons, List.append_assoc, List.singleton_append]
  | case2 i acc hi =>
    have hlength : bytes.data.toList.length ≤ i := Nat.le_of_not_lt hi
    rw [List.drop_eq_nil_of_le hlength, List.append_nil]

/-- The UTF-8 form of a text is that of its characters, one after another. -/
theorem toList_toUTF8 (cs : List Char) : (String.ofList cs).toUTF8.toList = cs.flatMap String.utf8EncodeChar := by
  have hutf8 : (String.ofList cs).toUTF8 = (cs.flatMap String.utf8EncodeChar).toByteArray := String.toByteArray_ofList
  rw [hutf8, ByteArray.toList, toList_loop, List.toList_data_toByteArray]
  rfl

theorem utf8EncodeChar_of_lt (h : c.toNat < 128) : String.utf8EncodeChar c = [octet c] := by
  have hle : c.val.toNat ≤ 127 := Nat.le_of_lt_succ h
  rw [String.utf8EncodeChar, if_pos hle]
  rfl

/-- A character that is not ASCII ends with an octet that is not ASCII. -/
theorem exists_mem_utf8EncodeChar (h : 128 ≤ c.toNat) : ∃ b ∈ String.utf8EncodeChar c, 128 ≤ b.toNat := by
  have hlast : 128 ≤ (UInt8.ofNat (c.val.toNat % 64 + 128)).toNat := by
    rw [UInt8.toNat_ofNat']
    omega
  have hgt : ¬ c.val.toNat ≤ 127 := Nat.not_le.2 h
  refine ⟨_, ?_, hlast⟩
  simp only [String.utf8EncodeChar, if_neg hgt]
  split_ifs <;> simp

theorem toList_toUTF8_of_forall_lt (h : ∀ c ∈ cs, c.toNat < 128) : (String.ofList cs).toUTF8.toList = cs.map octet := by
  rw [toList_toUTF8, ← List.flatMap_pure_eq_map]
  exact List.flatMap_congr fun c hc => utf8EncodeChar_of_lt (h c hc)

theorem toNat_octet (h : c.toNat < 128) : (octet c).toNat = c.toNat := by
  rw [octet, UInt8.toNat_ofNat', Nat.mod_eq_of_lt (Nat.lt_trans h (by decide))]

theorem map_ofNat_map_octet (h : ∀ c ∈ cs, c.toNat < 128) : (cs.map octet).map (fun b => Char.ofNat b.toNat) = cs := by
  rw [List.map_map]
  exact (List.map_congr_left fun c hc => by
    rw [Function.comp_apply, toNat_octet (h c hc), Char.ofNat_toNat, id_eq]).trans (List.map_id cs)

end Utf8

/-- Octets are read from their texts, and nothing else is read. -/
theorem decode_utf8_eq_ok_iff : decode (String.ofList cs).toUTF8.toList = .ok bytes ↔ Spells bytes cs := by
  have hascii : ∀ {cs}, Spells bytes cs → ∀ c ∈ cs, c.toNat < 128 :=
    fun hcs c hc => toNat_lt_of_mem_alphabet c (hcs.mem_alphabet c hc)
  rw [decode_eq_ok_iff]
  constructor
  · rintro ⟨ds, hds, heq⟩
    have hcs : ∀ c ∈ cs, c.toNat < 128 := by
      intro c hc
      by_contra hlt
      obtain ⟨b, hb, hle⟩ := exists_mem_utf8EncodeChar (Nat.le_of_not_lt hlt)
      have hmem : b ∈ ds.map octet := by
        rw [← heq, toList_toUTF8]
        exact List.mem_flatMap.2 ⟨c, hc, hb⟩
      obtain ⟨d, hd, rfl⟩ := List.mem_map.1 hmem
      have hd := hascii hds d hd
      exact Nat.not_lt.2 hle (toNat_octet hd ▸ hd)
    rw [toList_toUTF8_of_forall_lt hcs] at heq
    rwa [← map_ofNat_map_octet hcs, heq, map_ofNat_map_octet (hascii hds)]
  · intro hcs
    exact ⟨cs, hcs, toList_toUTF8_of_forall_lt (hascii hcs)⟩

theorem read_eq_ok_iff {text : String} : read text = .ok bytes ↔ Spells bytes text.toList := by
  rw [← decode_utf8_eq_ok_iff, String.ofList_toList, read]
  cases decode text.toUTF8.toList <;> simp [Except.mapError]

/-- The reader reads octets from their texts and nothing else. -/
theorem decodes_read : Decodes read where
  spelled h := read_eq_ok_iff.2 h
  odd {text} h := by
    cases hread : read text with
    | error reason => exact ⟨reason, rfl⟩
    | ok bytes =>
      have hlength := (read_eq_ok_iff.1 hread).length_eq
      omega
  stray {text c} hc h := by
    cases hread : read text with
    | error reason => exact ⟨reason, rfl⟩
    | ok bytes => exact absurd ((read_eq_ok_iff.1 hread).mem_alphabet c hc) h

end Router.Hex
