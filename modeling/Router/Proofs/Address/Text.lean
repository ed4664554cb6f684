import Mathlib.Data.List.TakeWhile
import Router.Address.Text
import Router.Proofs.Text.Numeral

/-!
# Addresses read back

What is written for an address is read as that address (`Address.read?_chars`). An IPv4 text is cut at its dots, and
each number reads back (`v4?_v4Chars`). The groups of an IPv6 text read back where they stand (`side?_groupChars`), a
text is cut at the one place where two colons meet (`cutDouble?_groupChars`), and the run of groups that is left out
there consists of zeros (`take_zeroRun`). A text with a colon is no IPv4 text (`v4?_of_colon`), so that the two families
are told apart.
-/

namespace Router

namespace Text

variable {α β γ : Type}

/-- A list of texts that all read back. -/
theorem mapM_of_forall {read? : α → Option β} {value : α → β} {items : List α}
    (h : ∀ a ∈ items, read? a = some (value a)) : items.mapM read? = some (items.map value) := by
  induction items with
  | nil => rfl
  | cons a rest ih =>
    obtain ⟨ha, hrest⟩ := List.forall_mem_cons.1 h
    rw [List.mapM_cons, ha, ih hrest]
    rfl

theorem isSome_of_mapM {read? : α → Option β} {items : List α} {values : List β} (h : items.mapM read? = some values) :
    ∀ a ∈ items, (read? a).isSome = true := by
  induction items generalizing values with
  | nil => exact List.forall_mem_nil _
  | cons a rest ih =>
    rw [List.mapM_cons] at h
    obtain ⟨b, hb, hrest⟩ := Option.bind_eq_some_iff.1 h
    obtain ⟨bs, hbs, -⟩ := Option.bind_eq_some_iff.1 hrest
    exact List.forall_mem_cons.2 ⟨Option.isSome_of_eq_some hb, ih hbs⟩

theorem mem_join {sep : Char} {pieces : List (List Char)} {c : Char} (h : c ∈ join [sep] pieces) :
    c = sep ∨ ∃ piece ∈ pieces, c ∈ piece := by
  induction pieces with
  | nil => cases h
  | cons piece pieces ih =>
    cases pieces with
    | nil => exact .inr ⟨piece, List.mem_cons_self, by simpa [join, List.intercalate] using h⟩
    | cons next pieces =>
      rw [join_cons_cons, List.append_assoc, List.mem_append, List.mem_append, List.mem_singleton] at h
      rcases h with h | h | h
      · exact .inr ⟨piece, List.mem_cons_self, h⟩
      · exact .inl h
      · obtain hsep | ⟨p, hp, hc⟩ := ih h
        · exact .inl hsep
        · exact .inr ⟨p, List.mem_cons_of_mem piece hp, hc⟩

end Text

namespace Address

open Text

/-! ## IPv4 -/

theorem octet?_chars (b : UInt8) : octet? (Decimal.chars b.toNat) = some b.toNat := by
  have hb : b.toNat < 256 := b.toNat_lt
  have hlength : (Decimal.chars b.toNat).length ≤ 3 :=
    (Nat.length_toDigits_le_iff (by decide) (by decide)).2 (by omega)
  rw [octet?, if_pos ⟨hlength, Decimal.length_chars_of_head?⟩, Decimal.digits?_chars, Option.filter_some,
    if_pos (decide_eq_true (Nat.le_of_lt_succ hb))]

theorem v4Octets?_v4Chars (bits : V4Address) :
    v4Octets? (v4Chars bits) = some ((octets (.v4 bits)).map UInt8.toNat) := by
  have hfields : fields '.' (v4Chars bits) = (octets (.v4 bits)).map fun b => Decimal.chars b.toNat := by
    refine fields_join (by simp [Bytes.ofNat]) fun piece hpiece => ?_
    obtain ⟨b, -, rfl⟩ := List.mem_map.1 hpiece
    exact Decimal.not_mem_chars (by decide) _
  have hread : ((octets (.v4 bits)).map fun b => Decimal.chars b.toNat).mapM octet? =
      some ((octets (.v4 bits)).map UInt8.toNat) := by
    rw [List.mapM_map]
    exact mapM_of_forall fun b _ => octet?_chars b
  rw [v4Octets?, hfields, hread, Option.filter_some]
  simp [octets]

theorem v4?_v4Chars (bits : V4Address) : v4? (v4Chars bits) = some bits := by
  have hvalue : ((octets (.v4 bits)).map UInt8.toNat).foldl (fun acc o => acc * 256 + o) 0 = bits.toNat := by
    rw [List.foldl_map]
    exact toNat_octets_v4 bits
  rw [v4?, v4Octets?_v4Chars, Option.map_some, hvalue, BitVec.ofNat_toNat, BitVec.setWidth_eq]

theorem isDigit_or_dot_of_mem_v4Chars (bits : V4Address) : ∀ c ∈ v4Chars bits, c = '.' ∨ c.isDigit = true := by
  intro c hc
  obtain hdot | ⟨piece, hpiece, hc⟩ := mem_join hc
  · exact .inl hdot
  · obtain ⟨b, -, rfl⟩ := List.mem_map.1 hpiece
    exact .inr (Decimal.isDigit_of_mem_chars _ c hc)

/-- An IPv4 text has no colon. -/
theorem v4?_of_colon {cs : List Char} (h : ':' ∈ cs) : v4? cs = none := by
  rw [v4?, Option.map_eq_none_iff, v4Octets?]
  cases hread : (fields '.' cs).mapM octet? with
  | none => rfl
  | some os =>
    -- The colon would stand in a field, and a field that is an octet has digits only.
    rw [← join_fields '.' cs] at h
    obtain hsep | ⟨field, hfield, hcolon⟩ := mem_join h
    · exact absurd hsep (by decide)
    · have hoctet := isSome_of_mapM hread field hfield
      rw [octet?] at hoctet
      split at hoctet
      · have hdigits : Decimal.digits? field = none := by
          refine if_neg fun hall => ?_
          exact absurd (List.all_eq_true.1 hall.2 ':' hcolon) (by decide)
        rw [hdigits] at hoctet
        cases hoctet
      · cases hoctet

/-! ## The groups of IPv6 -/

variable {gs : List Nat}

theorem group?_toDigits {g : Nat} (h : g < 65536) : group? (Nat.toDigits 16 g) = some g := by
  have hlength : (Nat.toDigits 16 g).length ≤ 4 := (Nat.length_toDigits_le_iff (by decide) (by decide)).2 h
  rw [group?, if_pos hlength, Radix.read?_toDigits (by decide) (by decide)]

theorem colon_not_mem_toDigits (g : Nat) : ':' ∉ Nat.toDigits 16 g := by
  intro hc
  exact absurd (Radix.isDigit_of_mem_toDigits (by decide) (by decide) g ':' hc) (by decide)

theorem groupsOfFields?_toDigits (tail : Bool) (h : ∀ g ∈ gs, g < 65536) :
    groupsOfFields? tail (gs.map (Nat.toDigits 16)) = some gs := by
  induction gs with
  | nil => rfl
  | cons g rest ih =>
    obtain ⟨hg, hrest⟩ := List.forall_mem_cons.1 h
    have hrest := ih hrest
    cases rest with
    | nil => simp [groupsOfFields?, group?_toDigits hg]
    | cons g' rest =>
      rw [List.map_cons] at hrest
      rw [List.map_cons, List.map_cons, groupsOfFields?, group?_toDigits hg, hrest]
      · rfl
      · exact fun hnil => by cases hnil

theorem side?_groupChars (tail : Bool) (h : ∀ g ∈ gs, g < 65536) : side? tail (groupChars gs) = some gs := by
  cases gs with
  | nil => rfl
  | cons g rest =>
    have hfields : fields ':' (groupChars (g :: rest)) = (g :: rest).map (Nat.toDigits 16) := by
      refine fields_join (by simp) fun piece hpiece => ?_
      obtain ⟨g', -, rfl⟩ := List.mem_map.1 hpiece
      exact colon_not_mem_toDigits g'
    have hne : groupChars (g :: rest) ≠ [] := by
      intro hnil
      rw [hnil] at hfields
      have hhead := List.head_eq_of_cons_eq hfields
      exact Nat.toDigits_ne_nil hhead.symm
    rw [side?, if_neg hne, hfields]
    exact groupsOfFields?_toDigits tail h

/-! ## Where two colons meet -/

theorem cutDouble?_append {piece : List Char} (h : ':' ∉ piece) (cs : List Char) :
    cutDouble? (piece ++ cs) = (cutDouble? cs).map fun (l, r) => (piece ++ l, r) := by
  induction piece with
  | nil => simp
  | cons c piece ih =>
    rw [List.mem_cons, not_or] at h
    rw [List.cons_append, cutDouble?, ih h.2, Option.map_map]
    · rfl
    · exact fun _ hc _ => h.1 hc.symm

theorem cutDouble?_colon {c : Char} (h : c ≠ ':') (cs : List Char) :
    cutDouble? (':' :: c :: cs) = (cutDouble? (c :: cs)).map fun (l, r) => (':' :: l, r) := by
  rw [cutDouble?]
  exact fun _ _ hcons => h (List.head_eq_of_cons_eq hcons)

theorem groupChars_cons_cons (g g' : Nat) (gs : List Nat) :
    groupChars (g :: g' :: gs) = Nat.toDigits 16 g ++ ':' :: groupChars (g' :: gs) := by
  simp only [groupChars, List.map_cons]
  rw [join_cons_cons, List.append_assoc]
  rfl

theorem exists_cons_groupChars (g : Nat) (gs : List Nat) : ∃ c cs, groupChars (g :: gs) = c :: cs ∧ c ≠ ':' := by
  obtain ⟨c, cs, hdigits⟩ := List.exists_cons_of_ne_nil (Nat.toDigits_ne_nil (n := g) (b := 16))
  have hc : c ≠ ':' := by
    rintro rfl
    exact colon_not_mem_toDigits g (by rw [hdigits]; exact List.mem_cons_self)
  cases gs with
  | nil => exact ⟨c, cs, by simp [groupChars, join, List.intercalate, hdigits], hc⟩
  | cons g' gs => exact ⟨c, cs ++ ':' :: groupChars (g' :: gs), by rw [groupChars_cons_cons, hdigits]; rfl, hc⟩

/-- Between groups stands one colon. -/
theorem cutDouble?_groupChars (gs : List Nat) (cs : List Char) :
    cutDouble? (groupChars gs ++ cs) = (cutDouble? cs).map fun (l, r) => (groupChars gs ++ l, r) := by
  induction gs with
  | nil => simp [groupChars, join]
  | cons g rest ih =>
    cases rest with
    | nil =>
      have hone : groupChars [g] = Nat.toDigits 16 g := by simp [groupChars, join, List.intercalate]
      rw [hone, cutDouble?_append (colon_not_mem_toDigits g)]
    | cons g' rest =>
      obtain ⟨c, t, hhead, hc⟩ := exists_cons_groupChars g' rest
      rw [groupChars_cons_cons, List.append_assoc, cutDouble?_append (colon_not_mem_toDigits g), List.cons_append]
      rw [hhead] at ih ⊢
      rw [List.cons_append, cutDouble?_colon hc, ← List.cons_append, ih, Option.map_map, Option.map_map]
      simp [Function.comp_def]

/-! ## Zeros left out -/

theorem longestZeroRun_le (gs : List Nat) : (longestZeroRun gs).2 ≤ zeroRun gs (longestZeroRun gs).1 := by
  suffices h : ∀ (is : List Nat) (best : Nat × Nat), best.2 ≤ zeroRun gs best.1 →
      (is.foldl (fun best i => if best.2 < zeroRun gs i then (i, zeroRun gs i) else best) best).2 ≤
        zeroRun gs (is.foldl (fun best i => if best.2 < zeroRun gs i then (i, zeroRun gs i) else best) best).1 from
    h (List.range gs.length) (0, 0) (Nat.zero_le _)
  intro is
  induction is with
  | nil => exact fun best h => h
  | cons i is ih =>
    intro best hbest
    rw [List.foldl_cons]
    refine ih _ ?_
    split
    · exact Nat.le_refl _
    · exact hbest

/-- A run of zeros can be put back where it was taken out. -/
theorem take_zeroRun {i n : Nat} (h : n ≤ zeroRun gs i) :
    gs = gs.take i ++ List.replicate n 0 ++ gs.drop (i + n) := by
  have hsplit := List.takeWhile_append_dropWhile (p := fun g => decide (g = 0)) (l := gs.drop i)
  have hzeros : (gs.drop i).take n = List.replicate n 0 := by
    rw [← hsplit, List.take_append_of_le_length h, List.eq_replicate_iff, List.length_take]
    refine ⟨Nat.min_eq_left h, fun g hg => ?_⟩
    have hzero := List.mem_takeWhile_imp (List.mem_of_mem_take hg)
    exact of_decide_eq_true hzero
  calc
    gs = gs.take i ++ ((gs.drop i).take n ++ (gs.drop i).drop n) := by
      rw [List.take_append_drop, List.take_append_drop]
    _ = _ := by rw [hzeros, List.drop_drop, List.append_assoc]

/-! ## IPv6 -/

theorem length_groups (bits : V6Address) : (groups bits).length = 8 := rfl

theorem lt_of_mem_groups (bits : V6Address) : ∀ g ∈ groups bits, g < 65536 := by
  intro g hg
  obtain ⟨i, -, rfl⟩ := List.mem_map.1 hg
  exact (bits.extractLsb' (16 * i) 16).isLt

theorem foldl_groups (bits : V6Address) : (groups bits).foldl (fun acc g => acc * 65536 + g) 0 = bits.toNat := by
  have hbits := bits.isLt
  simp only [groups, List.map_cons, List.map_nil, List.foldl_cons, List.foldl_nil, BitVec.extractLsb'_toNat,
    Nat.shiftRight_eq_div_pow]
  generalize bits.toNat = n at hbits
  omega

/-- The groups of a text without colons that meet, or with the longest run of zeros left out where they do. -/
theorem v6Groups?_groupChars {gs : List Nat} (hlength : gs.length = 8) (h : ∀ g ∈ gs, g < 65536) :
    v6Groups? (groupChars gs) = some gs := by
  have hcut : cutDouble? (groupChars gs) = none := by
    have hnone := cutDouble?_groupChars gs []
    rwa [List.append_nil] at hnone
  rw [v6Groups?, hcut]
  dsimp only
  rw [side?_groupChars true h, Option.filter_some, if_pos (decide_eq_true hlength)]

theorem v6Groups?_of_zeroRun {gs : List Nat} (hlength : gs.length = 8) (h : ∀ g ∈ gs, g < 65536) {start n : Nat}
    (hn : 1 < n) (hrun : n ≤ zeroRun gs start) :
    v6Groups? (groupChars (gs.take start) ++ [':', ':'] ++ groupChars (gs.drop (start + n))) = some gs := by
  have hcut : cutDouble? (groupChars (gs.take start) ++ [':', ':'] ++ groupChars (gs.drop (start + n))) =
      some (groupChars (gs.take start), groupChars (gs.drop (start + n))) := by
    rw [List.append_assoc, cutDouble?_groupChars]
    simp [cutDouble?]
  have hback := take_zeroRun hrun
  have hsum : (gs.take start).length + n + (gs.drop (start + n)).length = 8 := by
    have hlengths := congrArg List.length hback
    rw [List.length_append, List.length_append, List.length_replicate, hlength] at hlengths
    exact hlengths.symm
  have hzeros : 8 - (gs.take start).length - (gs.drop (start + n)).length = n := by omega
  rw [v6Groups?, hcut]
  dsimp only
  rw [side?_groupChars false fun g hg => h g (List.mem_of_mem_take hg),
    side?_groupChars true fun g hg => h g (List.mem_of_mem_drop hg)]
  simp only [Option.bind_eq_bind, Option.bind_some, Option.pure_def]
  rw [if_pos (by omega), hzeros, ← hback]

theorem v6Groups?_mapped (bits : V4Address) :
    v6Groups? ("::ffff:".toList ++ v4Chars bits) =
      some [0, 0, 0, 0, 0, 65535, bits.toNat / 65536, bits.toNat % 65536] := by
  have hcolon : ':' ∉ v4Chars bits := by
    intro hc
    rcases isDigit_or_dot_of_mem_v4Chars bits ':' hc with h | h <;> exact absurd h (by decide)
  have hfields : fields ':' ("ffff:".toList ++ v4Chars bits) = ["ffff".toList, v4Chars bits] := by
    have hlast := fields_of_not_mem hcolon
    have hpiece : ':' ∉ "ffff".toList := by decide
    have hfirst := fields_append_sep hpiece (v4Chars bits)
    rw [hlast] at hfirst
    exact hfirst
  have hgroup : group? (v4Chars bits) = none := by
    -- The text has a dot, which is no digit.
    have hdot : '.' ∈ v4Chars bits := by simp [v4Chars, Bytes.ofNat, join, List.intercalate]
    rw [group?]
    split
    · refine if_neg fun hall => ?_
      exact absurd (List.all_eq_true.1 hall.2 '.' hdot) (by decide)
    · rfl
  have hside : side? true ("ffff:".toList ++ v4Chars bits) =
      some [65535, bits.toNat / 65536, bits.toNat % 65536] := by
    rw [side?, if_neg (by simp), hfields]
    simp only [groupsOfFields?, hgroup, v4?_v4Chars]
    rfl
  have hcut : cutDouble? ("::ffff:".toList ++ v4Chars bits) = some ([], "ffff:".toList ++ v4Chars bits) := rfl
  rw [v6Groups?, hcut]
  dsimp only
  rw [hside]
  rfl

theorem foldl_mapped (bits : V6Address) (h : bits.extractLsb' 32 96 = 0xFFFF) :
    [0, 0, 0, 0, 0, 65535, (bits.truncate 32).toNat / 65536, (bits.truncate 32).toNat % 65536].foldl
      (fun acc g => acc * 65536 + g) 0 = bits.toNat := by
  have hbits := bits.isLt
  have hhigh := congrArg BitVec.toNat h
  rw [BitVec.extractLsb'_toNat, Nat.shiftRight_eq_div_pow] at hhigh
  simp only [List.foldl_cons, List.foldl_nil, BitVec.truncate_eq_setWidth, BitVec.toNat_setWidth]
  have hnumber : BitVec.toNat (0xFFFF : BitVec 96) = 65535 := rfl
  rw [hnumber] at hhigh
  generalize bits.toNat = n at hbits hhigh
  omega

theorem v6?_v6Chars (bits : V6Address) : v6? (v6Chars bits) = some bits := by
  have hback : ∀ gs : List Nat, gs.foldl (fun acc g => acc * 65536 + g) 0 = bits.toNat →
      (some gs).map (fun gs => BitVec.ofNat 128 (gs.foldl (fun acc g => acc * 65536 + g) 0)) = some bits := by
    intro gs hgs
    rw [Option.map_some, hgs, BitVec.ofNat_toNat, BitVec.setWidth_eq]
  rw [v6?, v6Chars]
  split
  · rename_i hmapped
    rw [v6Groups?_mapped]
    exact hback _ (foldl_mapped bits hmapped)
  · dsimp only
    split
    · rename_i hlong
      rw [v6Groups?_of_zeroRun (length_groups bits) (lt_of_mem_groups bits) hlong (longestZeroRun_le _)]
      exact hback _ (foldl_groups bits)
    · rw [v6Groups?_groupChars (length_groups bits) (lt_of_mem_groups bits)]
      exact hback _ (foldl_groups bits)

theorem colon_mem_v6Chars (bits : V6Address) : ':' ∈ v6Chars bits := by
  rw [v6Chars]
  split
  · exact List.mem_append_left _ (by decide)
  · dsimp only
    split
    · simp
    · simp [groupChars, groups, join, List.intercalate]

/-! ## Both families -/

/-- What is written for an address is read as that address. -/
theorem read?_chars (a : Address) : read? a.chars = some a := by
  cases a with
  | v4 bits => rw [chars, read?, v4?_v4Chars]
  | v6 bits =>
    rw [chars, read?, v4?_of_colon (colon_mem_v6Chars bits)]
    dsimp only
    rw [v6?_v6Chars, Option.map_some]

theorem ofString?_toString (a : Address) : ofString? (toString a) = some a := by
  have htext : (toString a).toList = a.chars := String.toList_ofList
  rw [ofString?, htext, read?_chars]

/-- A character of the text of an address. -/
def isTextChar (c : Char) : Bool :=
  c = '.' || c = ':' || Radix.isDigit 16 c

theorem isTextChar_of_mem_groupChars (gs : List Nat) : ∀ c ∈ groupChars gs, isTextChar c = true := by
  intro c hc
  obtain rfl | ⟨piece, hpiece, hc⟩ := mem_join hc
  · decide
  · obtain ⟨g, -, rfl⟩ := List.mem_map.1 hpiece
    simp [isTextChar, Radix.isDigit_of_mem_toDigits (by decide) (by decide) g c hc]

theorem isTextChar_of_mem_v4Chars (bits : V4Address) : ∀ c ∈ v4Chars bits, isTextChar c = true := by
  intro c hc
  obtain rfl | ⟨piece, hpiece, hc⟩ := mem_join hc
  · decide
  · obtain ⟨b, -, rfl⟩ := List.mem_map.1 hpiece
    have hdigit : ∀ n, ∀ c ∈ Decimal.chars n, Radix.isDigit 16 c = true := by
      intro n c hc
      have hten : Radix.isDigit 10 c = true := Radix.isDigit_of_mem_toDigits (by decide) (by decide) n c hc
      rw [Radix.isDigit, Option.isSome_iff_exists] at hten ⊢
      obtain ⟨d, hd⟩ := hten
      obtain ⟨hvalue, hless⟩ := Option.filter_eq_some_iff.1 hd
      exact ⟨d, Option.filter_eq_some_iff.2 ⟨hvalue, by simp at hless ⊢; omega⟩⟩
    simp [isTextChar, hdigit _ c hc]

theorem isTextChar_of_mem_chars (a : Address) : ∀ c ∈ a.chars, isTextChar c = true := by
  cases a with
  | v4 bits => exact isTextChar_of_mem_v4Chars bits
  | v6 bits =>
    rw [chars, v6Chars]
    split
    · have hfront : "::ffff:".toList.all isTextChar = true := by decide
      exact List.forall_mem_append.2 ⟨List.all_eq_true.1 hfront, isTextChar_of_mem_v4Chars _⟩
    · dsimp only
      split
      · have hcolons : [':', ':'].all isTextChar = true := by decide
        refine List.forall_mem_append.2 ⟨List.forall_mem_append.2 ⟨?_, List.all_eq_true.1 hcolons⟩, ?_⟩
        · exact isTextChar_of_mem_groupChars _
        · exact isTextChar_of_mem_groupChars _
      · exact isTextChar_of_mem_groupChars _

end Address

end Router
