import Router.Proofs.Header.Verification

/-!
# Every octet is there

Changing the endpoints of a datagram cuts parts out of it and writes into it, at places that its own header names. Here
the same is done with a check at each cut and each write (`Bytes.slice?`, `Bytes.patch?`, `Bytes.clamp?`), and the checks
never fail, one lemma for each function: whatever lengths a header claims, the segment lies behind the header and inside
the buffer, and what is written lies inside the segment or the header. Main statement: the change with checks gives what
the change without them gives (`Datagram.withEndpoints?_eq`).
-/

namespace Router

/-! ## Cuts and writes with checks -/

namespace Bytes

variable {bytes part : List UInt8} {offset start stop : Nat}

/-- The octets from `start` up to `stop`, which must come in this order and inside the list. -/
def slice? (bytes : List UInt8) (start stop : Nat) : Option (List UInt8) :=
  if start ≤ stop ∧ stop ≤ bytes.length then some ((bytes.take stop).drop start) else none

/-- Replaces the octets from `offset` on by `part`, which must fit into the list. -/
def patch? (bytes : List UInt8) (offset : Nat) (part : List UInt8) : Option (List UInt8) :=
  if offset + part.length ≤ bytes.length then some (patch bytes offset part) else none

/-- The number next to `n` from `low` to `high`, which must come in this order. -/
def clamp? (n low high : Nat) : Option Nat :=
  if low ≤ high then some (max low (min n high)) else none

theorem slice?_of_le (h : start ≤ stop) (hs : stop ≤ bytes.length) :
    slice? bytes start stop = some ((bytes.take stop).drop start) :=
  if_pos ⟨h, hs⟩

theorem patch?_of_le (h : offset + part.length ≤ bytes.length) :
    patch? bytes offset part = some (patch bytes offset part) :=
  if_pos h

/-- A part that was cut out is changed and written back. -/
theorem patch_slice {f : List UInt8 → List UInt8} (hf : ∀ part, (f part).length = part.length) (h : start ≤ stop)
    (hs : stop ≤ bytes.length) : patch bytes start (f ((bytes.take stop).drop start)) = modify bytes start stop f := by
  have hl : (f ((bytes.take stop).drop start)).length = stop - start := by
    rw [hf, List.length_drop, length_take_of_le hs]
  rw [patch, modify, hl, Nat.add_sub_cancel' h]

end Bytes

/-! ## The segment -/

namespace Segment

variable {segment : List UInt8} {offset : Nat}

/-- `stamp` with a check at each write. -/
def stamp? (segment : List UInt8) (offset : Nat) (number : UInt8) (e : Endpoints) (adjust : UInt16 → UInt16) :
    Option (List UInt8) := do
  let cleared ← Bytes.patch? segment offset [0, 0]
  Bytes.patch? cleared offset (Checksum.octets (adjust (checksum e.source e.destination number cleared)))

/-- `withEndpoints` with a check at each cut and each write. -/
def withEndpoints? (segment : List UInt8) (protocol : Protocol) (e : Endpoints) : Option (List UInt8) :=
  if segment.length < portsLength then some segment
  else do
    let numbered ← Bytes.patch? segment 0 (Bytes.ofNat 2 e.sourcePort.toNat)
    let renumbered ← Bytes.patch? numbered 2 (Bytes.ofNat 2 e.destinationPort.toNat)
    match protocol with
    | .tcp => if renumbered.length < tcpLength then some renumbered else stamp? renumbered 16 tcpNumber e id
    | .udp =>
      if renumbered.length < udpLength then some renumbered
      else do
        let stored ← Bytes.slice? renumbered 6 8
        if stored = [0, 0] ∧ e.source.isV4 then some renumbered else stamp? renumbered 6 udpNumber e nonZero
    | _ => some renumbered

theorem stamp?_eq (h : offset + 2 ≤ segment.length) (number : UInt8) (e : Endpoints) (adjust : UInt16 → UInt16) :
    stamp? segment offset number e adjust = some (stamp segment offset number e adjust) := by
  have hcleared : (Bytes.patch segment offset [0, 0]).length = segment.length := Bytes.length_patch _ _ _ h
  rw [stamp?, Bytes.patch?_of_le (by exact h)]
  exact Bytes.patch?_of_le (by rw [Checksum.length_octets, hcleared]; exact h)

theorem withEndpoints?_eq (segment : List UInt8) (protocol : Protocol) (e : Endpoints) :
    withEndpoints? segment protocol e = some (withEndpoints segment protocol e) := by
  unfold withEndpoints? withEndpoints
  by_cases hshort : segment.length < portsLength
  · rw [if_pos hshort, if_pos hshort]
  · have hroom : 4 ≤ segment.length := Nat.le_of_not_lt hshort
    have hsource := Bytes.length_ofNat 2 e.sourcePort.toNat
    have hdestination := Bytes.length_ofNat 2 e.destinationPort.toNat
    have hnumbered : (Bytes.patch segment 0 (Bytes.ofNat 2 e.sourcePort.toNat)).length = segment.length :=
      Bytes.length_patch _ _ _ (by omega)
    have hboth : Bytes.patch (Bytes.patch segment 0 (Bytes.ofNat 2 e.sourcePort.toNat)) 2
        (Bytes.ofNat 2 e.destinationPort.toNat) =
          Bytes.patch segment 0 (Bytes.ofNat 2 e.sourcePort.toNat ++ Bytes.ofNat 2 e.destinationPort.toNat) := by
      rw [← Bytes.patch_append (by omega), hsource]
    have hrenumbered := length_renumbered hroom e
    rw [if_neg hshort, if_neg hshort, Bytes.patch?_of_le (by omega), Option.bind_eq_bind, Option.bind_some,
      Bytes.patch?_of_le (by omega), Option.bind_some, hboth, ← portOctets]
    generalize Bytes.patch segment 0 (portOctets e) = renumbered at hrenumbered ⊢
    cases protocol with
    | tcp =>
      dsimp only
      split
      · rfl
      · exact stamp?_eq (by unfold tcpLength at *; omega) _ _ _
    | udp =>
      dsimp only
      split
      · rfl
      · rename_i hlong
        unfold udpLength at hlong
        rw [Bytes.slice?_of_le (by omega) (by omega), Option.bind_some, List.drop_take]
        split
        · rfl
        · exact stamp?_eq (by omega) _ _ _
    | icmp => rfl
    | icmpv6 => rfl
    | other => rfl

end Segment

/-! ## The addresses -/

namespace V4Header

variable {d : Datagram} {headerLength : Nat}

/-- `readdress` with a check at each cut and each write. -/
def readdress? (d : Datagram) (headerLength : Nat) (source destination : V4Address) : Option Datagram := do
  let sourced ← Bytes.patch? d 12 (Address.octets (.v4 source))
  let readdressed ← Bytes.patch? sourced 16 (Address.octets (.v4 destination))
  let cleared ← Bytes.patch? readdressed 10 [0, 0]
  let header ← Bytes.slice? cleared 0 headerLength
  Bytes.patch? cleared 10 (Checksum.octets (Checksum.of header))

theorem readdress?_eq (hmin : 20 ≤ headerLength) (h : headerLength ≤ d.length) (source destination : V4Address) :
    readdress? d headerLength source destination = some (readdress d headerLength source destination) := by
  have hs := Address.length_octets_v4 source
  have hd := Address.length_octets_v4 destination
  have hsourced : (Bytes.patch d 12 (Address.octets (.v4 source))).length = d.length :=
    Bytes.length_patch _ _ _ (by omega)
  have hreplaced := length_replaceAddresses (show 20 ≤ d.length by omega) source destination
  have hcleared : (Bytes.patch (replaceAddresses d source destination) 10 [0, 0]).length = d.length := by
    rw [Bytes.length_patch _ _ _ (by rw [hreplaced, List.length_cons, List.length_singleton]; omega), hreplaced]
  have hboth : Bytes.patch (Bytes.patch d 12 (Address.octets (.v4 source))) 16 (Address.octets (.v4 destination)) =
      replaceAddresses d source destination := by
    rw [replaceAddresses, ← Bytes.patch_append (by omega), hs]
  rw [readdress?, Bytes.patch?_of_le (by omega), Option.bind_eq_bind, Option.bind_some, Bytes.patch?_of_le (by omega),
    Option.bind_some, hboth, Bytes.patch?_of_le (by rw [hreplaced, List.length_cons, List.length_singleton]; omega),
    Option.bind_some, Bytes.slice?_of_le (Nat.zero_le _) (by omega), Option.bind_some, List.drop_zero]
  exact Bytes.patch?_of_le (by rw [Checksum.length_octets]; omega)

end V4Header

namespace V6Header

variable {d : Datagram}

/-- `readdress` with a check at each write. -/
def readdress? (d : Datagram) (source destination : V6Address) : Option Datagram := do
  let sourced ← Bytes.patch? d 8 (Address.octets (.v6 source))
  Bytes.patch? sourced 24 (Address.octets (.v6 destination))

theorem readdress?_eq (h : 40 ≤ d.length) (source destination : V6Address) :
    readdress? d source destination = some (readdress d source destination) := by
  have hs := Address.length_octets_v6 source
  have hd := Address.length_octets_v6 destination
  have hsourced : (Bytes.patch d 8 (Address.octets (.v6 source))).length = d.length :=
    Bytes.length_patch _ _ _ (by omega)
  rw [readdress?, Bytes.patch?_of_le (by omega), Option.bind_eq_bind, Option.bind_some, Bytes.patch?_of_le (by omega),
    readdress, ← Bytes.patch_append (by omega), hs]

end V6Header

/-! ## The datagram -/

namespace Datagram

variable {d : Datagram} {start stop : Nat}

/-- The segment lies behind the header and inside the buffer, whatever length the header claims. -/
theorem v4Segment_bounds {header : V4Header} (h : V4Header.read d = .ok header) :
    20 ≤ header.headerLength ∧ header.headerLength ≤ v4SegmentEnd header d.length ∧
      v4SegmentEnd header d.length ≤ d.length := by
  obtain ⟨hmin, hhave⟩ := V4Header.bounds_of_read h
  exact ⟨hmin, v4SegmentEnd_bounds hhave⟩

theorem v6Segment_bounds {header : V6Header} (h : V6Header.read d = .ok header) :
    40 ≤ d.length ∧ V6Header.headerLength ≤ v6SegmentEnd header d.length ∧
      v6SegmentEnd header d.length ≤ d.length := by
  have hmin := V6Header.length_of_read h
  exact ⟨hmin, v6SegmentEnd_bounds header hmin⟩

/-- `changeSegment` with a check at each cut and each write. -/
def changeSegment? (d : Datagram) (start stop : Nat) (protocol : Protocol) (e : Endpoints) : Option Datagram :=
  if protocol.hasPorts then do
    let segment ← Bytes.slice? d start stop
    let changed ← Segment.withEndpoints? segment protocol e
    Bytes.patch? d start changed
  else some d

/-- `withEndpoints` with a check at each cut and each write. -/
def withEndpoints? (d : Datagram) (protocol : Protocol) (e : Endpoints) : Option Datagram :=
  match e.source, e.destination with
  | .v4 source, .v4 destination =>
    match V4Header.read d with
    | .ok header =>
      if Protocol.ofNumber header.protocol = protocol then do
        let stop ← Bytes.clamp? header.totalLength header.headerLength d.length
        let changed ← changeSegment? d header.headerLength stop protocol e
        V4Header.readdress? changed header.headerLength source destination
      else some d
    | .error _ => some d
  | .v6 source, .v6 destination =>
    match V6Header.read d with
    | .ok header =>
      if Protocol.ofNumber header.nextHeader = protocol then do
        let changed ← changeSegment? d V6Header.headerLength (v6SegmentEnd header d.length) protocol e
        V6Header.readdress? changed source destination
      else some d
    | .error _ => some d
  | _, _ => some d

theorem changeSegment?_eq (protocol : Protocol) (e : Endpoints) (h : start ≤ stop) (hs : stop ≤ d.length) :
    changeSegment? d start stop protocol e = some (changeSegment d start stop protocol e) := by
  have hlength (segment : List UInt8) := Segment.length_withEndpoints segment protocol e
  unfold changeSegment? changeSegment
  split
  · rw [Bytes.slice?_of_le h hs, Option.bind_eq_bind, Option.bind_some, Segment.withEndpoints?_eq, Option.bind_some,
      Bytes.patch?_of_le, Bytes.patch_slice hlength h hs]
    rw [hlength, List.length_drop, Bytes.length_take_of_le hs]
    omega
  · rfl

theorem withEndpoints?_eq_v4 {header : V4Header} (h : V4Header.read d = .ok header) (protocol : Protocol)
    (e : Endpoints) (source destination : V4Address) :
    (do
      let stop ← Bytes.clamp? header.totalLength header.headerLength d.length
      let changed ← changeSegment? d header.headerLength stop protocol e
      V4Header.readdress? changed header.headerLength source destination) =
      some (V4Header.readdress (changeSegment d header.headerLength (v4SegmentEnd header d.length) protocol e)
        header.headerLength source destination) := by
  obtain ⟨hmin, hstart, hstop⟩ := v4Segment_bounds h
  have hchanged := length_changeSegment protocol e hstart hstop
  have hclamp : Bytes.clamp? header.totalLength header.headerLength d.length = some (v4SegmentEnd header d.length) :=
    if_pos (Nat.le_trans hstart hstop)
  rw [hclamp, Option.bind_eq_bind, Option.bind_some, changeSegment?_eq protocol e hstart hstop, Option.bind_eq_bind,
    Option.bind_some]
  exact V4Header.readdress?_eq hmin (by omega) source destination

theorem withEndpoints?_eq_v6 {header : V6Header} (h : V6Header.read d = .ok header) (protocol : Protocol)
    (e : Endpoints) (source destination : V6Address) :
    (do
      let changed ← changeSegment? d V6Header.headerLength (v6SegmentEnd header d.length) protocol e
      V6Header.readdress? changed source destination) =
      some (V6Header.readdress (changeSegment d V6Header.headerLength (v6SegmentEnd header d.length) protocol e)
        source destination) := by
  obtain ⟨hmin, hstart, hstop⟩ := v6Segment_bounds h
  have hchanged := length_changeSegment protocol e hstart hstop
  rw [changeSegment?_eq protocol e hstart hstop, Option.bind_eq_bind, Option.bind_some]
  exact V6Header.readdress?_eq (by omega) source destination

/-- No cut and no write leaves the buffer. -/
theorem withEndpoints?_eq (d : Datagram) (protocol : Protocol) (e : Endpoints) :
    withEndpoints? d protocol e = some (withEndpoints d protocol e) := by
  unfold withEndpoints? withEndpoints
  cases e.source with
  | v4 source =>
    cases e.destination with
    | v4 destination =>
      cases hr : V4Header.read d with
      | error _ => rfl
      | ok header =>
        dsimp only
        rw [withEndpoints?_eq_v4 hr]
        split <;> rfl
    | v6 destination => rfl
  | v6 source =>
    cases e.destination with
    | v4 destination => rfl
    | v6 destination =>
      cases hr : V6Header.read d with
      | error _ => rfl
      | ok header =>
        dsimp only
        rw [withEndpoints?_eq_v6 hr]
        split <;> rfl

end Datagram

end Router
