import Router.Proofs.Header.Bounds

/-!
# Which datagrams can be read

A reader makes checks, each with an error of its own, and answers with the error of the first one that fails or else
with what it read (`Check.answer`). A reader behind another adds its checks to those of the other (`Check.answer_bind`).
So the version, the header and the ports of a datagram are one list of checks (`Datagram.checks`), and behind them stand
its metadata, each at a place that the version and the length of the header name (`Datagram.standing`).

- reading is making these checks (`Metadata.read_eq_answer`), and they all pass for the readable datagrams alone
  (`Datagram.passes_checks_iff`);
- with a check at each octet that is read the answer is the same, so none lies outside (`Metadata.read?_eq`).

Main statement: `Metadata.read_decided`.
-/

namespace Router

/-! ## Checks -/

/-- A condition that a reader asks for, and its error where the condition does not hold. -/
structure Check where
  passes : Bool
  error : Error

namespace Check

variable {α β : Type} {checks more : List Check} {a b : α} {e : Error}

/-- The error of the first check that fails, or else the value behind the checks. -/
def answer (value : α) : List Check → Except Error α
  | [] => .ok value
  | c :: rest => if c.passes then answer value rest else .error c.error

/-- The first check that fails has this error. -/
def FirstFails (checks : List Check) (e : Error) : Prop :=
  ∃ before c after, checks = before ++ c :: after ∧ (∀ b ∈ before, b.passes = true) ∧ c.passes = false ∧ c.error = e

theorem answer_cons_of_passes {c : Check} (h : c.passes = true) : answer a (c :: checks) = answer a checks :=
  if_pos h

theorem answer_cons_of_fails {c : Check} (h : c.passes = false) : answer a (c :: checks) = .error c.error :=
  if_neg (by rw [h]; exact Bool.false_ne_true)

theorem answer_eq_ok_iff : answer a checks = .ok b ↔ (∀ c ∈ checks, c.passes = true) ∧ b = a := by
  induction checks with
  | nil =>
    rw [answer, Except.ok.injEq, and_iff_right (List.forall_mem_nil _)]
    exact eq_comm
  | cons c rest ih =>
    rw [List.forall_mem_cons]
    cases hc : c.passes with
    | true => rw [answer_cons_of_passes hc, ih, and_iff_right rfl]
    | false => rw [answer_cons_of_fails hc]; simp

theorem answer_eq_error_iff : answer a checks = .error e ↔ FirstFails checks e := by
  induction checks with
  | nil =>
    refine iff_of_false (fun h => nomatch h) ?_
    rintro ⟨before, c, after, h, -⟩
    simp at h
  | cons c rest ih =>
    cases hc : c.passes with
    | true =>
      rw [answer_cons_of_passes hc, ih]
      constructor
      · rintro ⟨before, d, after, rfl, hbefore, hd⟩
        exact ⟨c :: before, d, after, rfl, List.forall_mem_cons.2 ⟨hc, hbefore⟩, hd⟩
      · rintro ⟨before, d, after, h, hbefore, hd, he⟩
        cases before with
        | nil =>
          obtain ⟨rfl, -⟩ := List.cons.inj h
          rw [hc] at hd
          cases hd
        | cons b before =>
          obtain ⟨-, rfl⟩ := List.cons.inj h
          exact ⟨before, d, after, rfl, (List.forall_mem_cons.1 hbefore).2, hd, he⟩
    | false =>
      rw [answer_cons_of_fails hc, Except.error.injEq]
      constructor
      · rintro rfl
        exact ⟨[], c, rest, rfl, List.forall_mem_nil _, hc, rfl⟩
      · rintro ⟨before, d, after, h, hbefore, -, he⟩
        cases before with
        | nil =>
          obtain ⟨rfl, -⟩ := List.cons.inj h
          exact he
        | cons b before =>
          obtain ⟨rfl, -⟩ := List.cons.inj h
          rw [(List.forall_mem_cons.1 hbefore).1] at hc
          cases hc

/-- What is checked behind the value of a reader is checked behind its checks. -/
theorem answer_bind {next : α → Except Error β} {b : β} (h : next a = answer b more) :
    answer a checks >>= next = answer b (checks ++ more) := by
  induction checks with
  | nil => exact h
  | cons c rest ih =>
    rw [List.cons_append]
    cases hc : c.passes with
    | true => rw [answer_cons_of_passes hc, answer_cons_of_passes hc, ih]
    | false => rw [answer_cons_of_fails hc, answer_cons_of_fails hc]; rfl

end Check

/-! ## What stands in a datagram -/

/-- The numbers of the protocols with ports, TCP and UDP. -/
def Protocol.Ported (number : Nat) : Prop :=
  number = 6 ∨ number = 17

instance (number : Nat) : Decidable (Protocol.Ported number) :=
  inferInstanceAs (Decidable (number = 6 ∨ number = 17))

theorem Protocol.hasPorts_ofNumber_iff (number : Nat) : (ofNumber number).hasPorts = true ↔ Ported number := by
  unfold ofNumber Ported
  split
  · simp [hasPorts, *]
  · split
    · simp [hasPorts, *]
    · split
      · simp [hasPorts, *]
      · split <;> simp [hasPorts, *]

/-- What a header shows, and where the segment begins. -/
structure Front where
  source : Address
  destination : Address
  number : Nat
  start : Nat

namespace Datagram

open Bytes (number)

/-- The IP version in the first octet. -/
def version (d : Datagram) : Nat :=
  number d 0 1 / 16

/-- The length of an IPv4 header in the first octet, in words of four octets. -/
def words (d : Datagram) : Nat :=
  number d 0 1 % 16

/-- What stands at the places of an IPv4 header. -/
def v4Front (d : Datagram) : Front :=
  ⟨.v4 (.ofNat 32 (number d 12 4)), .v4 (.ofNat 32 (number d 16 4)), number d 9 1, d.words * 4⟩

/-- What stands at the places of an IPv6 header. -/
def v6Front (d : Datagram) : Front :=
  ⟨.v6 (.ofNat 128 (number d 8 16)), .v6 (.ofNat 128 (number d 24 16)), number d 6 1, 40⟩

/-- The metadata behind a header: two numbers at the front of the segment are the ports, if the protocol has any. -/
def standingBehind (d : Datagram) (f : Front) : Metadata where
  source := some f.source
  destination := some f.destination
  protocol := .ofNumber f.number
  sourcePort := if Protocol.Ported f.number then .ofNat (number d f.start 2) else 0
  destinationPort := if Protocol.Ported f.number then .ofNat (number d (f.start + 2) 2) else 0
  length := d.length

/-- The metadata that stand in a datagram. -/
def standing (d : Datagram) : Metadata :=
  d.standingBehind (if d.version = 4 then d.v4Front else d.v6Front)

/-- A datagram is long enough for all that is read of it: for an IPv4 header and the words that it claims, at least
five, or for an IPv6 header, and behind it for the ports, if the protocol has any. -/
def Readable (d : Datagram) : Prop :=
  (d.version = 4 ∧ 20 ≤ d.length ∧ 5 ≤ d.words ∧ d.words * 4 ≤ d.length ∧
    (Protocol.Ported (number d 9 1) → d.words * 4 + 4 ≤ d.length)) ∨
  (d.version = 6 ∧ 40 ≤ d.length ∧ (Protocol.Ported (number d 6 1) → 44 ≤ d.length))

/-- The check of the ports behind a header. -/
def portsCheck (d : Datagram) (f : Front) : Check :=
  ⟨Protocol.Ported f.number → f.start + 4 ≤ d.length, .packetTooShort 4 (d.length - f.start)⟩

/-- The checks of a datagram, in the order in which they count. -/
def checks (d : Datagram) : List Check :=
  ⟨d ≠ [], .packetTooShort 1 0⟩ :: ⟨d.version = 4 ∨ d.version = 6, .unsupportedVersion d.version⟩ ::
    if d.version = 4 then
      [⟨20 ≤ d.length, .packetTooShort 20 d.length⟩, ⟨5 ≤ d.words, .malformed (.headerWords d.words)⟩,
        ⟨d.words * 4 ≤ d.length, .packetTooShort (d.words * 4) d.length⟩, d.portsCheck d.v4Front]
    else [⟨40 ≤ d.length, .packetTooShort 40 d.length⟩, d.portsCheck d.v6Front]

theorem version_cons (first : UInt8) (rest : List UInt8) : version (first :: rest) = first.toNat / 16 := by
  rw [version, Metadata.number_first]

theorem passes_portsCheck_iff (d : Datagram) (f : Front) :
    (d.portsCheck f).passes = true ↔ (Protocol.Ported f.number → f.start + 4 ≤ d.length) :=
  decide_eq_true_iff

theorem passes_checks_iff (d : Datagram) : (∀ c ∈ d.checks, c.passes = true) ↔ d.Readable := by
  have hempty : d = [] → d.version = 0 := by
    rintro rfl
    rfl
  have hports := d.passes_portsCheck_iff
  unfold checks Readable
  by_cases h4 : d.version = 4
  · have hne : d ≠ [] := fun h => by rw [hempty h] at h4; cases h4
    simp [h4, hne, hports, v4Front]
  · by_cases h6 : d.version = 6
    · have hne : d ≠ [] := fun h => by rw [hempty h] at h6; cases h6
      simp [h6, hne, hports, v6Front]
    · simp [h4, h6]

end Datagram

/-! ## Readers as checks -/

section Readers

variable (d : Datagram)

theorem V4Header.read_eq_answer :
    read d = Check.answer (fields d)
      [⟨20 ≤ d.length, .packetTooShort 20 d.length⟩, ⟨d.version = 4, .unsupportedVersion d.version⟩,
        ⟨5 ≤ d.words, .malformed (.headerWords d.words)⟩,
        ⟨d.words * 4 ≤ d.length, .packetTooShort (d.words * 4) d.length⟩] := by
  unfold read minLength
  by_cases hlen : 20 ≤ d.length
  · rw [dif_neg (by omega), Check.answer_cons_of_passes (decide_eq_true hlen)]
    dsimp only [Bytes.field_eq_number]
    rw [← Datagram.version, ← Datagram.words]
    by_cases hversion : d.version = 4
    · rw [if_neg (by omega), Check.answer_cons_of_passes (decide_eq_true hversion)]
      by_cases hwords : 5 ≤ d.words
      · rw [if_neg (by omega), Check.answer_cons_of_passes (decide_eq_true hwords)]
        by_cases hhave : d.words * 4 ≤ d.length
        · rw [if_neg (by omega), Check.answer_cons_of_passes (decide_eq_true hhave)]
          rfl
        · rw [if_pos (by omega), Check.answer_cons_of_fails (decide_eq_false hhave)]
      · rw [if_pos (by omega), Check.answer_cons_of_fails (decide_eq_false hwords)]
    · rw [if_pos hversion, Check.answer_cons_of_fails (decide_eq_false hversion)]
  · rw [dif_pos (by omega), Check.answer_cons_of_fails (decide_eq_false hlen)]

theorem V6Header.read_eq_answer :
    read d = Check.answer (fields d)
      [⟨40 ≤ d.length, .packetTooShort 40 d.length⟩, ⟨d.version = 6, .unsupportedVersion d.version⟩] := by
  unfold read headerLength
  by_cases hlen : 40 ≤ d.length
  · rw [dif_neg (by omega), Check.answer_cons_of_passes (decide_eq_true hlen)]
    dsimp only [Bytes.field_eq_number]
    rw [← Datagram.version]
    by_cases hversion : d.version = 6
    · rw [if_neg (by omega), Check.answer_cons_of_passes (decide_eq_true hversion)]
      rfl
    · rw [if_pos hversion, Check.answer_cons_of_fails (decide_eq_false hversion)]
  · rw [dif_pos (by omega), Check.answer_cons_of_fails (decide_eq_false hlen)]

theorem Bytes.number_drop (bytes : List UInt8) (start offset width : Nat) :
    number (bytes.drop start) offset width = number bytes (start + offset) width := by
  rw [number, number, List.drop_drop]

theorem Segment.ports_of_short {segment : List UInt8} (h : segment.length < 4) :
    ports segment = .error (.packetTooShort 4 segment.length) :=
  dif_pos h

namespace Metadata

/-- Behind a header the ports are the one thing to check. -/
theorem ofHeader_eq_answer (f : Front) :
    ofHeader f.source f.destination f.number (d.drop f.start) d.length =
      Check.answer (d.standingBehind f) [d.portsCheck f] := by
  have hports := Protocol.hasPorts_ofNumber_iff f.number
  have hpasses := d.passes_portsCheck_iff f
  have hbehind : (d.drop f.start).length = d.length - f.start := List.length_drop
  unfold ofHeader
  by_cases hported : Protocol.Ported f.number
  · rw [forall_prop_of_true hported] at hpasses
    rw [if_pos (hports.2 hported)]
    by_cases hroom : f.start + 4 ≤ d.length
    · rw [Segment.ports_of_le (by omega), Check.answer_cons_of_passes (hpasses.2 hroom)]
      simp [Except.map, Check.answer, Datagram.standingBehind, hported, Bytes.number_drop]
    · have hfails : (d.portsCheck f).passes = false := eq_false_of_ne_true fun h => hroom (hpasses.1 h)
      rw [Segment.ports_of_short (by omega), Check.answer_cons_of_fails hfails, hbehind]
      rfl
  · rw [if_neg fun h => hported (hports.1 h), Check.answer_cons_of_passes (hpasses.2 fun h => absurd h hported)]
    simp [Check.answer, Datagram.standingBehind, hported]

/-- Behind the first octet the version chooses the header. -/
theorem read_of_ne_nil (h : d ≠ []) :
    read d =
      if d.version = 4 then do
        let header ← V4Header.read d
        ofHeader (.v4 header.source) (.v4 header.destination) header.protocol header.payload d.length
      else if d.version = 6 then do
        let header ← V6Header.read d
        ofHeader (.v6 header.source) (.v6 header.destination) header.nextHeader header.payload d.length
      else .error (.unsupportedVersion d.version) := by
  cases d with
  | nil => exact absurd rfl h
  | cons first rest => rw [Datagram.version_cons]; rfl

/-- Reading a datagram is making its checks. -/
theorem read_eq_answer : read d = Check.answer d.standing d.checks := by
  unfold Datagram.standing Datagram.checks
  by_cases hne : d ≠ []
  · rw [read_of_ne_nil d hne, Check.answer_cons_of_passes (decide_eq_true hne)]
    by_cases h4 : d.version = 4
    · rw [if_pos h4, if_pos h4, if_pos h4, Check.answer_cons_of_passes (decide_eq_true (.inl h4)),
        V4Header.read_eq_answer]
      refine Eq.trans (Check.answer_bind (by exact ofHeader_eq_answer d d.v4Front)) ?_
      simp [Check.answer, h4]
    · by_cases h6 : d.version = 6
      · rw [if_neg h4, if_pos h6, if_neg h4, if_neg h4, Check.answer_cons_of_passes (decide_eq_true (.inr h6)),
          V6Header.read_eq_answer]
        refine Eq.trans (Check.answer_bind (by exact ofHeader_eq_answer d d.v6Front)) ?_
        simp [Check.answer, h6]
      · rw [if_neg h4, if_neg h6, Check.answer_cons_of_fails (decide_eq_false (by omega))]
  · rw [Check.answer_cons_of_fails (decide_eq_false hne), Classical.not_not.1 hne]
    rfl

end Metadata

end Readers

/-! ## Every octet is there -/

/-- The number in the `width` octets from `offset` on, which must lie inside the list. -/
def Bytes.number? (bytes : List UInt8) (offset width : Nat) : Option Nat :=
  (slice? bytes offset (offset + width)).map toNat

theorem Bytes.number?_of_le {bytes : List UInt8} {offset width : Nat} (h : offset + width ≤ bytes.length) :
    number? bytes offset width = some (number bytes offset width) := by
  rw [number?, slice?_of_le (Nat.le_add_right _ _) h, Option.map_some, List.drop_take, Nat.add_sub_cancel_left, number]

/-- `V4Header.read` with a check at each octet that is read. -/
def V4Header.read? (d : Datagram) : Option (Except Error V4Header) :=
  if d.length < minLength then some (.error (.packetTooShort minLength d.length))
  else do
    let first ← Bytes.number? d 0 1
    let headerLength := first % 16 * 4
    if first / 16 ≠ 4 then some (.error (.unsupportedVersion (first / 16)))
    else if headerLength < minLength then some (.error (.malformed (.headerWords (first % 16))))
    else if d.length < headerLength then some (.error (.packetTooShort headerLength d.length))
    else do
      let totalLength ← Bytes.number? d 2 2
      let ttl ← Bytes.number? d 8 1
      let protocol ← Bytes.number? d 9 1
      let source ← Bytes.number? d 12 4
      let destination ← Bytes.number? d 16 4
      let payload ← Bytes.slice? d headerLength d.length
      let header ← Bytes.slice? d 0 headerLength
      return .ok {
        headerLength, totalLength, ttl, protocol, payload
        source := .ofNat 32 source
        destination := .ofNat 32 destination
        checksumOk := Checksum.of header = 0 }

/-- `V6Header.read` with a check at each octet that is read. -/
def V6Header.read? (d : Datagram) : Option (Except Error V6Header) :=
  if d.length < headerLength then some (.error (.packetTooShort headerLength d.length))
  else do
    let first ← Bytes.number? d 0 1
    if first / 16 ≠ 6 then some (.error (.unsupportedVersion (first / 16)))
    else do
      let payloadLength ← Bytes.number? d 4 2
      let nextHeader ← Bytes.number? d 6 1
      let hopLimit ← Bytes.number? d 7 1
      let source ← Bytes.number? d 8 16
      let destination ← Bytes.number? d 24 16
      let payload ← Bytes.slice? d headerLength d.length
      return .ok {
        payloadLength, nextHeader, hopLimit, payload
        source := .ofNat 128 source
        destination := .ofNat 128 destination }

/-- `Segment.ports` with a check at each octet that is read. -/
def Segment.ports? (segment : List UInt8) : Option (Except Error (UInt16 × UInt16)) :=
  if segment.length < portsLength then some (.error (.packetTooShort portsLength segment.length))
  else do
    let source ← Bytes.number? segment 0 2
    let destination ← Bytes.number? segment 2 2
    return .ok (.ofNat source, .ofNat destination)

namespace Metadata

/-- `ofHeader` with a check at each octet that is read. -/
def ofHeader? (source destination : Address) (number : Nat) (segment : List UInt8) (length : Nat) :
    Option (Except Error Metadata) :=
  let protocol := Protocol.ofNumber number
  if protocol.hasPorts then do
    let ports ← Segment.ports? segment
    return ports.map fun (sourcePort, destinationPort) =>
      ⟨some source, some destination, protocol, sourcePort, destinationPort, length⟩
  else some (.ok ⟨some source, some destination, protocol, 0, 0, length⟩)

/-- `read` with a check at each octet that is read. -/
def read? (d : Datagram) : Option (Except Error Metadata) :=
  if d = [] then some (.error (.packetTooShort 1 0))
  else do
    let first ← Bytes.number? d 0 1
    if first / 16 = 4 then do
      match ← V4Header.read? d with
      | .error e => return .error e
      | .ok header =>
        ofHeader? (.v4 header.source) (.v4 header.destination) header.protocol header.payload d.length
    else if first / 16 = 6 then do
      match ← V6Header.read? d with
      | .error e => return .error e
      | .ok header =>
        ofHeader? (.v6 header.source) (.v6 header.destination) header.nextHeader header.payload d.length
    else return .error (.unsupportedVersion (first / 16))

end Metadata

section Inside

variable (d : Datagram)

theorem V4Header.read?_eq : read? d = some (read d) := by
  unfold read? read minLength
  by_cases hlen : d.length < 20
  · rw [if_pos hlen, dif_pos hlen]
  · rw [if_neg hlen, dif_neg hlen, Bytes.number?_of_le (by omega)]
    dsimp only [Bytes.field_eq_number, Option.bind_eq_bind, Option.bind_some]
    by_cases hversion : Bytes.number d 0 1 / 16 ≠ 4
    · rw [if_pos hversion, if_pos hversion]
    · rw [if_neg hversion, if_neg hversion]
      by_cases hmin : Bytes.number d 0 1 % 16 * 4 < 20
      · rw [if_pos hmin, if_pos hmin]
      · rw [if_neg hmin, if_neg hmin]
        by_cases hhave : d.length < Bytes.number d 0 1 % 16 * 4
        · rw [if_pos hhave, if_pos hhave]
        · rw [if_neg hhave, if_neg hhave, Bytes.number?_of_le (by omega), Bytes.number?_of_le (by omega),
            Bytes.number?_of_le (by omega), Bytes.number?_of_le (by omega), Bytes.number?_of_le (by omega),
            Bytes.slice?_of_le (by omega) (Nat.le_refl _), Bytes.slice?_of_le (Nat.zero_le _) (by omega),
            List.take_length, List.drop_zero]
          rfl

theorem V6Header.read?_eq : read? d = some (read d) := by
  unfold read? read headerLength
  by_cases hlen : d.length < 40
  · rw [if_pos hlen, dif_pos hlen]
  · rw [if_neg hlen, dif_neg hlen, Bytes.number?_of_le (by omega)]
    dsimp only [Bytes.field_eq_number, Option.bind_eq_bind, Option.bind_some]
    by_cases hversion : Bytes.number d 0 1 / 16 ≠ 6
    · rw [if_pos hversion, if_pos hversion]
    · rw [if_neg hversion, if_neg hversion, Bytes.number?_of_le (by omega), Bytes.number?_of_le (by omega),
        Bytes.number?_of_le (by omega), Bytes.number?_of_le (by omega), Bytes.number?_of_le (by omega),
        Bytes.slice?_of_le (by omega) (Nat.le_refl _), List.take_length]
      rfl

theorem Segment.ports?_eq (segment : List UInt8) : ports? segment = some (ports segment) := by
  unfold ports? portsLength
  by_cases h : segment.length < 4
  · rw [if_pos h, ports_of_short h]
  · rw [if_neg h, ports_of_le (by omega), Bytes.number?_of_le (by omega), Bytes.number?_of_le (by omega)]
    rfl

namespace Metadata

theorem ofHeader?_eq (source destination : Address) (number : Nat) (segment : List UInt8) (length : Nat) :
    ofHeader? source destination number segment length = some (ofHeader source destination number segment length) := by
  unfold ofHeader? ofHeader
  dsimp only
  rw [Segment.ports?_eq]
  split <;> rfl

/-- No octet that is read lies outside the datagram. -/
theorem read?_eq : read? d = some (read d) := by
  cases d with
  | nil => rfl
  | cons first rest =>
    unfold read? read
    rw [if_neg (List.cons_ne_nil _ _), Bytes.number?_of_le (by rw [List.length_cons]; omega), number_first,
      V4Header.read?_eq, V6Header.read?_eq]
    dsimp only [Option.bind_eq_bind, Option.bind_some]
    by_cases h4 : first.toNat / 16 = 4
    · rw [if_pos h4, if_pos h4]
      cases V4Header.read (first :: rest) with
      | error e => rfl
      | ok header => exact ofHeader?_eq _ _ _ _ _
    · by_cases h6 : first.toNat / 16 = 6
      · rw [if_neg h4, if_neg h4, if_pos h6, if_pos h6]
        cases V6Header.read (first :: rest) with
        | error e => rfl
        | ok header => exact ofHeader?_eq _ _ _ _ _
      · rw [if_neg h4, if_neg h4, if_neg h6, if_neg h6]
        rfl

end Metadata

end Inside

/-- A datagram can be read exactly if it is readable, and then its metadata are those that stand in it; otherwise the
error is that of the first check that fails. No octet that is read lies outside. -/
theorem Metadata.read_decided (d : Datagram) :
    (∀ m, read d = .ok m ↔ d.Readable ∧ m = d.standing) ∧
    (∀ e, read d = .error e ↔ Check.FirstFails d.checks e) ∧
    read? d = some (read d) := by
  refine ⟨fun m => ?_, fun e => ?_, read?_eq d⟩
  · rw [read_eq_answer, Check.answer_eq_ok_iff, d.passes_checks_iff]
  · rw [read_eq_answer, Check.answer_eq_error_iff]

-- The header claims six words, of which five are there.
example : Metadata.read (0x46 :: List.replicate 19 0) = .error (.packetTooShort 24 20) := rfl

end Router
