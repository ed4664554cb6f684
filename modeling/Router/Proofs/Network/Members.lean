import Router.Firewall
import Router.Nat
import Router.Proofs.Network
import Router.Routing

/-!
# The members of a network

The mask of a network is the word whose leading bits are set (`getMsbD_leadingOnes`), and no shift that makes it is by
as much as the width (`leadingOnes?_eq`). So the network around an address has those members that agree with it on the
leading bits (`Network.contains_around_iff`), networks with the same members are equal (`Network.eq_iff`), and of two
that share a member the longer one lies in the other (`Network.contains_of_shared`). A rule is therefore found by the
addresses it is for, however its networks were written. Main statement: `Network.members_settle`.
-/

namespace Router

/-! ## Masks -/

theorem getMsbD_leadingOnes {w n : Nat} (h : n ≤ w) (i : Nat) : (leadingOnes w n).getMsbD i = decide (i < n) := by
  rw [leadingOnes, BitVec.getMsbD_shiftLeft, BitVec.getMsbD_allOnes]
  exact decide_eq_decide.2 (by omega)

/-- The word of width `w` whose `n` leading bits are set, if no shift on the way is by the width or more. -/
def leadingOnes? (w n : Nat) : Option (BitVec w) :=
  if n = 0 then some 0
  else if n ≤ w ∧ w - n < w then some (BitVec.allOnes w <<< (w - n))
  else none

theorem leadingOnes?_eq {w n : Nat} (h : n ≤ w) : leadingOnes? w n = some (leadingOnes w n) := by
  by_cases hzero : n = 0
  · have hnone : leadingOnes w 0 = 0 := BitVec.shiftLeft_eq_zero (Nat.le_refl w)
    rw [hzero, hnone]
    rfl
  · rw [leadingOnes?, if_neg hzero, if_pos ⟨h, by omega⟩]
    rfl

/-! ## Blocks -/

namespace Block

variable {w : Nat} {b c : Block w} {x y : BitVec w}

/-- The base of the block around a word, if no shift on the way is by the width or more. -/
def base? (word : BitVec w) (length : Nat) : Option (BitVec w) :=
  (leadingOnes? w (min length w)).map fun mask => word &&& mask

/-- Whether a word lies in the block, if no shift on the way is by the width or more. -/
def contains? (b : Block w) (word : BitVec w) : Option Bool :=
  (leadingOnes? w b.length).map fun mask => b.base &&& mask == word &&& mask

/-- The highest word of the block. -/
def top (b : Block w) : BitVec w :=
  b.base ||| ~~~leadingOnes w b.length

theorem base?_eq (word : BitVec w) (length : Nat) : base? word length = some (around word length).base := by
  rw [base?, leadingOnes?_eq (Nat.min_le_right length w)]
  rfl

theorem contains?_eq (b : Block w) (word : BitVec w) : b.contains? word = some (b.contains word) := by
  rw [contains?, leadingOnes?_eq b.length_le]
  rfl

theorem contains_iff : b.contains x = true ↔ ∀ i < b.length, b.base.getMsbD i = x.getMsbD i := by
  rw [contains, beq_iff_eq]
  constructor
  · intro h i hi
    have hbit := congrArg (fun word : BitVec w => word.getMsbD i) h
    simpa only [BitVec.getMsbD_and, getMsbD_leadingOnes b.length_le, hi, decide_true, Bool.and_true] using hbit
  · intro h
    refine BitVec.eq_of_getMsbD_eq fun i _ => ?_
    simp only [BitVec.getMsbD_and, getMsbD_leadingOnes b.length_le]
    by_cases hi : i < b.length
    · rw [h i hi]
    · simp only [hi, decide_false, Bool.and_false]

theorem getMsbD_base_of_le (b : Block w) {i : Nat} (h : b.length ≤ i) : b.base.getMsbD i = false := by
  rw [← b.base_masked, BitVec.getMsbD_and, getMsbD_leadingOnes b.length_le, decide_eq_false (Nat.not_lt.2 h),
    Bool.and_false]

theorem getMsbD_top (b : Block w) (i : Nat) :
    b.top.getMsbD i = (b.base.getMsbD i || decide (i < w ∧ b.length ≤ i)) := by
  rw [top, BitVec.getMsbD_or, BitVec.getMsbD_not, getMsbD_leadingOnes b.length_le]
  by_cases hi : i < b.length
  · simp [hi, Nat.not_le.2 hi]
  · simp [hi, Nat.not_lt.1 hi]

theorem contains_base (b : Block w) : b.contains b.base = true :=
  contains_iff.2 fun _ _ => rfl

theorem contains_top (b : Block w) : b.contains b.top = true := by
  refine contains_iff.2 fun i hi => ?_
  rw [getMsbD_top, decide_eq_false (by omega), Bool.or_false]

theorem contains_around_iff {length : Nat} :
    (around x length).contains y = true ↔ ∀ i < min length w, x.getMsbD i = y.getMsbD i := by
  have hbit : ∀ i < min length w, (around x length).base.getMsbD i = x.getMsbD i := by
    intro i hi
    rw [around, BitVec.getMsbD_and, getMsbD_leadingOnes (Nat.min_le_right length w), decide_eq_true hi, Bool.and_true]
  rw [contains_iff]
  exact forall₂_congr fun i hi => by rw [hbit i hi]

/-- A block inside another is at least as long: its lowest and highest word differ in the first bit that its members do
not share. -/
theorem length_le_of_forall (h : ∀ x, c.contains x = true → b.contains x = true) : b.length ≤ c.length := by
  by_contra hlong
  have hshared : c.length < b.length := Nat.lt_of_not_le hlong
  have hwidth : c.length < w := Nat.lt_of_lt_of_le hshared b.length_le
  have hbase := contains_iff.1 (h _ c.contains_base) _ hshared
  have htop := contains_iff.1 (h _ c.contains_top) _ hshared
  rw [hbase, getMsbD_top, c.getMsbD_base_of_le (Nat.le_refl _), decide_eq_true ⟨hwidth, Nat.le_refl _⟩] at htop
  cases htop

theorem ext_of_length (hlength : b.length = c.length) (hbase : b.base = c.base) : b = c := by
  cases b
  cases c
  cases hlength
  cases hbase
  rfl

/-- Blocks with the same members are equal. -/
theorem ext_of_contains (h : ∀ x, b.contains x = c.contains x) : b = c := by
  have hlength : b.length = c.length :=
    Nat.le_antisymm (length_le_of_forall fun x hx => (h x).trans hx)
      (length_le_of_forall fun x hx => (h x).symm.trans hx)
  refine ext_of_length hlength (BitVec.eq_of_getMsbD_eq fun i _ => ?_)
  by_cases hi : i < b.length
  · exact contains_iff.1 ((h _).trans c.contains_base) i hi
  · have hle := Nat.not_lt.1 hi
    rw [b.getMsbD_base_of_le hle, c.getMsbD_base_of_le (hlength ▸ hle)]

end Block

/-! ## Networks -/

/-- Two addresses are of one family and agree on the first `n` bits, or on all of them where there are fewer. -/
inductive Address.Agree (n : Nat) : Address → Address → Prop
  | v4 {x y : V4Address} (bits : ∀ i < min n 32, x.getMsbD i = y.getMsbD i) : Agree n (.v4 x) (.v4 y)
  | v6 {x y : V6Address} (bits : ∀ i < min n 128, x.getMsbD i = y.getMsbD i) : Agree n (.v6 x) (.v6 y)

namespace Address.Agree

variable {n k : Nat} {x y z : Address}

theorem refl (n : Nat) : (x : Address) → x.Agree n x
  | .v4 _ => .v4 fun _ _ => rfl
  | .v6 _ => .v6 fun _ _ => rfl

theorem symm (h : x.Agree n y) : y.Agree n x := by
  cases h with
  | v4 hbits => exact .v4 fun i hi => (hbits i hi).symm
  | v6 hbits => exact .v6 fun i hi => (hbits i hi).symm

theorem trans (hxy : x.Agree n y) (hyz : y.Agree n z) : x.Agree n z := by
  cases hxy with
  | v4 hbits =>
    cases hyz with
    | v4 hbits' => exact .v4 fun i hi => (hbits i hi).trans (hbits' i hi)
  | v6 hbits =>
    cases hyz with
    | v6 hbits' => exact .v6 fun i hi => (hbits i hi).trans (hbits' i hi)

theorem mono (h : x.Agree n y) (hle : k ≤ n) : x.Agree k y := by
  cases h with
  | v4 hbits => exact .v4 fun i hi => hbits i (by omega)
  | v6 hbits => exact .v6 fun i hi => hbits i (by omega)

end Address.Agree

namespace Network

variable {n m : Network} {a b x y : Address} {length : Nat}

/-- The base of the network around an address, if no shift on the way is by the width or more. -/
def base? (a : Address) (length : Nat) : Option Address :=
  match a with
  | .v4 bits => (Block.base? bits length).map .v4
  | .v6 bits => (Block.base? bits length).map .v6

/-- Whether an address lies in the network, if no shift on the way is by the width or more. -/
def contains? : Network → Address → Option Bool
  | .v4 block, .v4 bits => block.contains? bits
  | .v6 block, .v6 bits => block.contains? bits
  | _, _ => some false

theorem base?_eq (a : Address) (length : Nat) : base? a length = some (around a length).base := by
  cases a with
  | v4 bits => exact congrArg (Option.map Address.v4) (Block.base?_eq bits length)
  | v6 bits => exact congrArg (Option.map Address.v6) (Block.base?_eq bits length)

theorem contains?_eq (n : Network) (x : Address) : n.contains? x = some (n.contains x) := by
  cases n with
  | v4 block =>
    cases x with
    | v4 bits => exact block.contains?_eq bits
    | v6 bits => rfl
  | v6 block =>
    cases x with
    | v4 bits => rfl
    | v6 bits => exact block.contains?_eq bits

theorem contains_around_iff : (around a length).contains x = true ↔ a.Agree length x := by
  constructor
  · intro h
    cases a with
    | v4 bits =>
      cases x with
      | v4 bits' => exact .v4 (Block.contains_around_iff.1 h)
      | v6 bits' => cases h
    | v6 bits =>
      cases x with
      | v4 bits' => cases h
      | v6 bits' => exact .v6 (Block.contains_around_iff.1 h)
  · intro h
    cases h with
    | v4 hbits => exact Block.contains_around_iff.2 hbits
    | v6 hbits => exact Block.contains_around_iff.2 hbits

/-- Networks with the same members are equal. -/
theorem ext_of_contains (h : ∀ x, n.contains x = m.contains x) : n = m := by
  cases n with
  | v4 block =>
    cases m with
    | v4 block' => exact congrArg v4 (Block.ext_of_contains fun bits => h (.v4 bits))
    | v6 block' => cases (h (.v4 block.base)).symm.trans block.contains_base
  | v6 block =>
    cases m with
    | v4 block' => cases (h (.v6 block.base)).symm.trans block.contains_base
    | v6 block' => exact congrArg v6 (Block.ext_of_contains fun bits => h (.v6 bits))

theorem eq_iff : n = m ↔ ∀ x, n.contains x = m.contains x :=
  ⟨fun h _ => h ▸ rfl, ext_of_contains⟩

theorem contains_iff : n.contains x = true ↔ n.base.Agree n.length x := by
  rw [← contains_around_iff, around_base]

/-- The networks around two addresses are the same exactly if the addresses differ in host bits only. -/
theorem around_eq_iff : around a length = around b length ↔ a.Agree length b := by
  rw [eq_iff]
  constructor
  · intro h
    exact contains_around_iff.1 ((h b).trans (contains_around_iff.2 (.refl length b)))
  · intro h x
    rw [Bool.eq_iff_iff, contains_around_iff, contains_around_iff]
    exact ⟨fun hx => h.symm.trans hx, fun hx => h.trans hx⟩

/-- Networks that a packet may or may not have to come from are equal if they admit the same addresses. -/
theorem ext_of_admits {n m : Option Network} (h : ∀ x, admits n x = admits m x) : n = m := by
  cases n with
  | none =>
    cases m with
    | none => rfl
    | some m => cases h none
  | some n =>
    cases m with
    | none => cases h none
    | some m => exact congrArg some (ext_of_contains fun x => h (some x))

/-- Of two networks that share an address the longer one lies in the other. -/
theorem contains_of_shared (hn : n.contains x = true) (hm : m.contains x = true) (hlength : n.length ≤ m.length)
    (hy : m.contains y = true) : n.contains y = true := by
  rw [contains_iff] at hn hm hy ⊢
  have hxy : x.Agree m.length y := hm.symm.trans hy
  exact hn.trans (hxy.mono hlength)

end Network

/-! ## Rules for the same addresses -/

/-- Routes to the same addresses that are otherwise the same. -/
structure Route.Alike (r s : Route) : Prop where
  destination : ∀ a, r.destination.contains a = s.destination.contains a
  others : s = { r with destination := s.destination }

/-- Filter rules for the same addresses that are otherwise the same. -/
structure FilterRule.Alike (r s : FilterRule) : Prop where
  source : ∀ a, Network.admits r.source a = Network.admits s.source a
  destination : ∀ a, Network.admits r.destination a = Network.admits s.destination a
  others : s = { r with source := s.source, destination := s.destination }

/-- Translation rules for the same addresses that are otherwise the same. -/
structure NatRule.Alike (r s : NatRule) : Prop where
  source : ∀ a, Network.admits r.source a = Network.admits s.source a
  destination : ∀ a, Network.admits r.destination a = Network.admits s.destination a
  others : s = { r with source := s.source, destination := s.destination }

theorem Route.alike_iff {r s : Route} : r.Alike s ↔ s = r := by
  constructor
  · intro h
    rw [h.others, ← Network.ext_of_contains h.destination]
  · rintro rfl
    exact ⟨fun _ => rfl, rfl⟩

theorem FilterRule.alike_iff {r s : FilterRule} : r.Alike s ↔ s = r := by
  constructor
  · intro h
    rw [h.others, ← Network.ext_of_admits h.source, ← Network.ext_of_admits h.destination]
  · rintro rfl
    exact ⟨fun _ => rfl, fun _ => rfl, rfl⟩

theorem NatRule.alike_iff {r s : NatRule} : r.Alike s ↔ s = r := by
  constructor
  · intro h
    rw [h.others, ← Network.ext_of_admits h.source, ← Network.ext_of_admits h.destination]
  · rintro rfl
    exact ⟨fun _ => rfl, fun _ => rfl, rfl⟩

/-- What comes of a list when other elements are put in place of the first one that is meant: nothing if none is. -/
inductive Edits {α : Type} (Meant : α → Prop) (put : List α) : List α → Option (List α) → Prop
  | found (front : List α) (x : α) (back : List α) (earlier : ∀ y ∈ front, ¬ Meant y) (meant : Meant x) :
    Edits Meant put (front ++ x :: back) (some (front ++ put ++ back))
  | missing (list : List α) (none_meant : ∀ y ∈ list, ¬ Meant y) : Edits Meant put list none

namespace Edits

variable {α ρ : Type} {Meant Meant' : α → Prop} {put list : List α} {result : Option (List α)}

theorem found_head (x : α) (back : List α) (hx : Meant x) : Edits Meant put (x :: back) (some (put ++ back)) :=
  found [] x back (fun _ hmem => absurd hmem List.not_mem_nil) hx

theorem missing_nil : Edits Meant put [] none :=
  missing [] fun _ hmem => absurd hmem List.not_mem_nil

theorem cons {x : α} (hx : ¬ Meant x) (h : Edits Meant put list result) :
    Edits Meant put (x :: list) (result.map (x :: ·)) := by
  cases h with
  | found front y back hearlier hmeant =>
    exact found (x :: front) y back (List.forall_mem_cons.2 ⟨hx, hearlier⟩) hmeant
  | missing list hnone => exact missing (x :: list) (List.forall_mem_cons.2 ⟨hx, hnone⟩)

theorem of_iff (h : Edits Meant put list result) (hiff : ∀ x, Meant' x ↔ Meant x) :
    Edits Meant' put list result := by
  rwa [funext fun x => propext (hiff x)]

/-- What goes along a list until it comes to an element that is meant edits the list there. -/
theorem of_search [DecidablePred Meant] (search? : List α → Option (List α)) (hnil : search? [] = none)
    (hcons : ∀ x rest, search? (x :: rest) = if Meant x then some (put ++ rest) else (search? rest).map (x :: ·))
    (list : List α) : Edits Meant put list (search? list) := by
  induction list with
  | nil =>
    rw [hnil]
    exact missing_nil
  | cons x rest ih =>
    rw [hcons]
    split
    case isTrue hx => exact found_head x rest hx
    case isFalse hx => exact ih.cons hx

variable [DecidableEq ρ]

theorem of_erase? (list : RuleList ρ) (target : ρ) :
    Edits (fun entry : Counted ρ => entry.rule = target) [] list (list.erase? target) :=
  of_search (fun list => RuleList.erase? list target) rfl (fun _ _ => rfl) list

theorem of_replace? (list : RuleList ρ) (target rule : ρ) :
    Edits (fun entry : Counted ρ => entry.rule = target) [⟨rule, 0⟩] list (list.replace? target rule) :=
  of_search (fun list => RuleList.replace? list target rule) rfl (fun _ _ => rfl) list

theorem of_erase (list : List ρ) (target : ρ) :
    Edits (fun x => x = target) [] list (if target ∈ list then some (list.erase target) else none) := by
  split
  case isTrue hmem =>
    obtain ⟨front, back, hfront, hlist, herase⟩ := List.exists_erase_eq hmem
    rw [herase, hlist]
    have hfound : Edits (fun x => x = target) [] (front ++ target :: back) (some (front ++ [] ++ back)) :=
      found front target back (fun x hx h => hfront (h ▸ hx)) rfl
    rwa [List.append_nil] at hfound
  case isFalse hmem => exact missing list fun x hx h => hmem (h ▸ hx)

end Edits

namespace Network

/-- The network around an address has the members that agree with it on the leading bits, no shift on the way being by
the width or more. Networks are told apart by their members, and of two that share an address the longer one lies in
the other. So a route or rule is removed or replaced as the first one for the same addresses, whatever host bits were
written. -/
theorem members_settle :
    (∀ a length x, ((around a length).contains x = true ↔ a.Agree length x) ∧
        base? a length = some (around a length).base ∧
        (around a length).contains? x = some ((around a length).contains x)) ∧
      (∀ n m : Network, n = m ↔ ∀ x, n.contains x = m.contains x) ∧
      (∀ a b length, around a length = around b length ↔ a.Agree length b) ∧
      (∀ (t : RoutingTable) route, ∃ result, Edits route.Alike [] t.routes result ∧
        t.remove? route = result.map RoutingTable.ofList) ∧
      (∀ (f : Firewall) target, ∃ result, Edits (fun entry => target.Alike entry.rule) [] f.list result ∧
        f.remove? target = result.map fun list => { f with list }) ∧
      (∀ (f : Firewall) target rule, ∃ result,
        Edits (fun entry => target.Alike entry.rule) [⟨rule, 0⟩] f.list result ∧
        f.update? target rule = result.map fun list => { f with list }) ∧
      (∀ (t : NatTable) target, ∃ result, Edits (fun entry => target.Alike entry.rule) [] t.list result ∧
        t.remove? target = result.map fun list => { t with list }) ∧
      ∀ (n m : Network) x, n.contains x = true → m.contains x = true → n.length ≤ m.length →
        ∀ y, m.contains y = true → n.contains y = true := by
  refine ⟨fun a length x => ⟨contains_around_iff, base?_eq a length, contains?_eq _ x⟩, fun n m => eq_iff,
    fun a b length => around_eq_iff, fun t route => ?route, fun f target => ?filter, fun f target rule => ?update,
    fun t target => ?translation, fun n m x hn hm hlength y hy => contains_of_shared hn hm hlength hy⟩
  case route =>
    refine ⟨_, (Edits.of_erase t.routes route).of_iff fun _ => Route.alike_iff, ?_⟩
    rw [RoutingTable.remove?]
    split <;> rfl
  case filter => exact ⟨_, (Edits.of_erase? f.list target).of_iff fun _ => FilterRule.alike_iff, rfl⟩
  case update => exact ⟨_, (Edits.of_replace? f.list target rule).of_iff fun _ => FilterRule.alike_iff, rfl⟩
  case translation => exact ⟨_, (Edits.of_erase? t.list target).of_iff fun _ => NatRule.alike_iff, rfl⟩

/-- 10.1.2.3/8 is 10.0.0.0/8. It shares 10.1.2.7 with 10.1.2.0/24, which is longer, so all of that lies in it. -/
theorem members_settle_ten :
    around (.v4 0x0A010203) 8 = around (.v4 0x0A000000) 8 ∧
      (around (.v4 0x0A000000) 8).contains (.v4 0x0A010207) = true ∧
      (around (.v4 0x0A010200) 24).contains (.v4 0x0A010207) = true ∧
      ∀ y, (around (.v4 0x0A010200) 24).contains y = true → (around (.v4 0x0A000000) 8).contains y = true := by
  obtain ⟨hmembers, -, hsame, -, -, -, -, hnested⟩ := members_settle
  have hwide : (around (.v4 0x0A000000) 8).contains (.v4 0x0A010207) = true :=
    (hmembers _ _ _).1.2 (.v4 (by decide))
  have hnarrow : (around (.v4 0x0A010200) 24).contains (.v4 0x0A010207) = true :=
    (hmembers _ _ _).1.2 (.v4 (by decide))
  exact ⟨(hsame _ _ 8).2 (.v4 (by decide)), hwide, hnarrow, hnested _ _ _ hwide hnarrow (by decide)⟩

end Network

end Router
