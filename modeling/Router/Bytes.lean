/-!
# Octets

A datagram is a list of octets. Numbers stand in it most significant octet first (`Bytes.ofNat`, `Bytes.toNat`), a
read carries the proof that it stays inside (`Bytes.field`), and a write replaces octets in place (`Bytes.patch`,
`Bytes.modify`). Main statements: the two directions of the number format undo each other (`toNat_ofNat`,
`ofNat_toNat`), and a write inside the list keeps its length (`length_patch`).
-/

namespace Router

/-- A raw IP packet as it stands on the wire. -/
abbrev Datagram := List UInt8

namespace Bytes

/-! ## Numbers -/

/-- The place value of an octet with `n` octets behind it. -/
def place : Nat → Nat
  | 0 => 1
  | n + 1 => 256 * place n

/-- The `n` low octets of `x`, most significant first. -/
def ofNat : (n : Nat) → (x : Nat) → List UInt8
  | 0, _ => []
  | n + 1, x => UInt8.ofNat (x / place n) :: ofNat n x

/-- The number that octets stand for, most significant first. -/
def toNat (bytes : List UInt8) : Nat :=
  bytes.foldl (fun acc b => acc * 256 + b.toNat) 0

theorem place_pos (n : Nat) : 0 < place n := by
  induction n with
  | zero => exact Nat.one_pos
  | succ n ih => exact Nat.mul_pos (by decide) ih

@[simp] theorem length_ofNat (n x : Nat) : (ofNat n x).length = n := by
  induction n with
  | zero => rfl
  | succ n ih => simp [ofNat, ih]

theorem foldl_eq (bytes : List UInt8) (acc : Nat) :
    bytes.foldl (fun acc b => acc * 256 + b.toNat) acc = acc * place bytes.length + toNat bytes := by
  induction bytes generalizing acc with
  | nil => simp [toNat, place]
  | cons b bytes ih =>
    simp only [toNat, List.foldl_cons, List.length_cons, place]
    rw [ih (acc * 256 + b.toNat), ih (0 * 256 + b.toNat), Nat.add_mul, Nat.zero_mul, Nat.zero_add, Nat.mul_assoc,
      Nat.add_assoc]

theorem toNat_cons (b : UInt8) (bytes : List UInt8) :
    toNat (b :: bytes) = b.toNat * place bytes.length + toNat bytes := by
  simp [toNat, foldl_eq bytes b.toNat]

theorem toNat_lt (bytes : List UInt8) : toNat bytes < place bytes.length := by
  induction bytes with
  | nil => exact Nat.one_pos
  | cons b bytes ih =>
    have hb : b.toNat + 1 ≤ 256 := b.toNat_lt
    have := Nat.mul_le_mul_right (place bytes.length) hb
    rw [toNat_cons, List.length_cons, place]
    rw [Nat.add_mul] at this
    omega

/-- Writing a number in `n` octets keeps it modulo their number of values. -/
theorem toNat_ofNat (n x : Nat) : toNat (ofNat n x) = x % place n := by
  induction n with
  | zero => exact (Nat.mod_one x).symm
  | succ n ih =>
    have h : UInt8.toNat (UInt8.ofNat (x / place n)) = x / place n % 256 := by simp
    rw [ofNat, toNat_cons, length_ofNat, ih, h, place, Nat.mul_comm 256, Nat.mod_mul, Nat.mul_comm (place n)]
    omega

theorem ofNat_add (n x y : Nat) : ofNat n (y * place n + x) = ofNat n x := by
  induction n generalizing x y with
  | zero => rfl
  | succ n ih =>
    have split : y * place (n + 1) + x = (y * 256) * place n + x := by rw [place, Nat.mul_assoc]
    simp only [ofNat, split]
    rw [ih x (y * 256), Nat.add_comm, Nat.add_mul_div_right _ _ (place_pos n)]
    congr 1
    apply UInt8.toNat_inj.1
    simp

/-- Octets are recovered from the number they stand for. -/
theorem ofNat_toNat (bytes : List UInt8) : ofNat bytes.length (toNat bytes) = bytes := by
  induction bytes with
  | nil => rfl
  | cons b bytes ih =>
    have h := toNat_lt bytes
    rw [List.length_cons, ofNat, toNat_cons, ofNat_add, ih, Nat.add_comm,
      Nat.add_mul_div_right _ _ (place_pos _), Nat.div_eq_of_lt h]
    simp

/-! ## Reading and writing in place -/

/-- The number in the `width` octets from `offset` on, which must lie inside the list. -/
def field (bytes : List UInt8) (offset width : Nat) (_ : offset + width ≤ bytes.length) : Nat :=
  toNat ((bytes.drop offset).take width)

/-- Replaces the octets from `offset` on by `part`. -/
def patch (bytes : List UInt8) (offset : Nat) (part : List UInt8) : List UInt8 :=
  bytes.take offset ++ part ++ bytes.drop (offset + part.length)

/-- Replaces the octets from `start` up to `stop` by their image under `f`. -/
def modify (bytes : List UInt8) (start stop : Nat) (f : List UInt8 → List UInt8) : List UInt8 :=
  bytes.take start ++ f ((bytes.take stop).drop start) ++ bytes.drop stop

theorem field_lt (bytes : List UInt8) (offset width : Nat) (h : offset + width ≤ bytes.length) :
    field bytes offset width h < place width := by
  have := toNat_lt ((bytes.drop offset).take width)
  rwa [List.length_take, List.length_drop, Nat.min_eq_left (by omega)] at this

theorem length_patch (bytes : List UInt8) (offset : Nat) (part : List UInt8)
    (h : offset + part.length ≤ bytes.length) : (patch bytes offset part).length = bytes.length := by
  simp only [patch, List.length_append, List.length_take, List.length_drop]
  omega

theorem length_modify (bytes : List UInt8) (start stop : Nat) (f : List UInt8 → List UInt8)
    (hf : ∀ part, (f part).length = part.length) (h : start ≤ stop) (hs : stop ≤ bytes.length) :
    (modify bytes start stop f).length = bytes.length := by
  simp only [modify, List.length_append, List.length_take, List.length_drop, hf]
  omega

/-- Whether `needle` stands somewhere in the list as a run. -/
def contains (needle : List UInt8) : List UInt8 → Bool
  | [] => needle.isEmpty
  | b :: rest => needle.isPrefixOf (b :: rest) || contains needle rest

end Bytes

end Router
