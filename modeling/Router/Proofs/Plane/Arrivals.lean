import Mathlib.Algebra.Ring.Nat
import Router.Proofs.Metrics
import Router.Proofs.Plane.Aside
import Router.Proofs.Plane.Tickets

/-!
# Reading a capture to its end

The loop that feeds a router reads a capture until nothing is pending, if nobody stops it and whoever could do so
outlives it (`Watch.Quiet`). Whatever is wrong with a datagram concerns it alone (`Packet.isDatagramFault_of_read`), so
none ends the loop, and what is counted of arrivals stands aside from what is done with them (`ingestArrivals_eq`). Main
statement: to read datagrams to their end is to process the packets of those that can be read, one after another in the
order of arrival, each at its own time, and to count the others (`ingest_datagrams`).
-/

namespace Router

/-! ## Datagrams that cannot be read -/

section Faults

variable {d : Datagram} {e : Error}

theorem V4Header.isDatagramFault_of_read (h : V4Header.read d = .error e) : e.isDatagramFault = true := by
  unfold V4Header.read at h
  dsimp only at h
  repeat' split at h
  all_goals cases h <;> rfl

theorem V6Header.isDatagramFault_of_read (h : V6Header.read d = .error e) : e.isDatagramFault = true := by
  unfold V6Header.read at h
  dsimp only at h
  repeat' split at h
  all_goals cases h <;> rfl

theorem Metadata.isDatagramFault_of_ofHeader {source destination : Address} {number length : Nat}
    {segment : List UInt8} (h : ofHeader source destination number segment length = .error e) :
    e.isDatagramFault = true := by
  unfold ofHeader Segment.ports at h
  dsimp only at h
  repeat' split at h
  all_goals cases h <;> rfl

theorem Metadata.isDatagramFault_of_read (h : Metadata.read d = .error e) : e.isDatagramFault = true := by
  cases d with
  | nil =>
    cases h
    rfl
  | cons first rest =>
    unfold Metadata.read at h
    dsimp only at h
    split at h
    · cases hr : V4Header.read (first :: rest) with
      | error fault =>
        rw [hr] at h
        cases h
        exact V4Header.isDatagramFault_of_read hr
      | ok header =>
        rw [hr] at h
        exact isDatagramFault_of_ofHeader h
    · split at h
      · cases hr : V6Header.read (first :: rest) with
        | error fault =>
          rw [hr] at h
          cases h
          exact V6Header.isDatagramFault_of_read hr
        | ok header =>
          rw [hr] at h
          exact isDatagramFault_of_ofHeader h
      · cases h
        rfl

/-- Whatever is wrong with a datagram, the next one can be read. -/
theorem Packet.isDatagramFault_of_read {ingress : String} (h : Packet.read d ingress = .error e) :
    e.isDatagramFault = true := by
  unfold Packet.read at h
  cases hm : Metadata.read d with
  | error fault =>
    rw [hm] at h
    cases h
    exact Metadata.isDatagramFault_of_read hm
  | ok m =>
    rw [hm] at h
    cases h

/-- A packet has the octets of its datagram and the interface that it came through. -/
theorem Packet.origin_of_read {ingress : String} {p : Packet} (h : Packet.read d ingress = .ok p) :
    p.data = d ∧ p.ingress = ingress := by
  unfold Packet.read at h
  cases hm : Metadata.read d with
  | error fault =>
    rw [hm] at h
    cases h
  | ok m =>
    rw [hm] at h
    cases h
    exact ⟨rfl, rfl⟩

end Faults

/-! ## What a capture brings -/

/-- The datagrams that a capture can read. -/
def Capture.accepted (c : Capture) (datagrams : List Datagram) : List Datagram :=
  datagrams.filter fun d => (Packet.read d c.ingress).toOption.isSome

/-- The number of datagrams that a capture cannot read. -/
def Capture.refused (c : Capture) (datagrams : List Datagram) : Nat :=
  datagrams.countP fun d => (Packet.read d c.ingress).toOption.isNone

/-- The packets of datagrams that a capture hands out from a turn on: those of the datagrams that it can read, in order,
each with the reading of the clock at the turn of its datagram and with the next ticket. -/
def Capture.packets (c : Capture) (clock : Nat → Nat) (turn : Nat) (datagrams : List Datagram) :
    List (Nat × Packet) :=
  let read := (datagrams.zipIdx turn).filterMap fun a =>
    (Packet.read a.1 c.ingress).toOption.map fun p => (clock a.2, p)
  (read.zipIdx c.handedOut).map fun a => (a.1.1, a.1.2.withTicket a.2)

/-- The counters after packets came in through an interface, and after datagrams that could not be read. -/
def Metrics.arrived (m : Metrics) (ingress : String) (packets : List Packet) (refused : Nat) : Metrics :=
  packets.foldl (fun m p => m.received ingress p.length) (m.add .rxErrors (UInt64.ofNat refused))

namespace Plane

/-- The router after packets were processed one after another, each at its time. -/
def processAll (pl : Plane) (packets : List (Nat × Packet)) : Plane :=
  packets.foldl (fun pl a => (pl.process a.1 a.2).plane) pl

/-- The packets that are given up while packets are processed one after another. -/
def givenUp (pl : Plane) : List (Nat × Packet) → List Packet
  | [] => []
  | a :: rest => (pl.process a.1 a.2).discarded.toList ++ (pl.process a.1 a.2).plane.givenUp rest

end Plane

namespace Capture

variable {c : Capture} {clock : Nat → Nat} {turn : Nat} {d : Datagram} {p : Packet} {e : Error}

theorem packets_cons_of_ok (h : Packet.read d c.ingress = .ok p) (rest : List Datagram) :
    c.packets clock turn (d :: rest) =
      (clock turn, p.withTicket c.handedOut) ::
        { c with handedOut := c.handedOut + 1 }.packets clock (turn + 1) rest := by
  rw [packets, List.zipIdx_cons, List.filterMap_cons_some (by rw [h]; rfl), List.zipIdx_cons, List.map_cons]
  rfl

theorem packets_cons_of_error (h : Packet.read d c.ingress = .error e) (rest : List Datagram) :
    c.packets clock turn (d :: rest) = c.packets clock (turn + 1) rest := by
  rw [packets, List.zipIdx_cons, List.filterMap_cons_none (by rw [h]; rfl)]
  rfl

theorem accepted_cons_of_ok (h : Packet.read d c.ingress = .ok p) (rest : List Datagram) :
    c.accepted (d :: rest) = d :: c.accepted rest := by
  rw [accepted, List.filter_cons_of_pos (by rw [h]; rfl)]
  rfl

theorem accepted_cons_of_error (h : Packet.read d c.ingress = .error e) (rest : List Datagram) :
    c.accepted (d :: rest) = c.accepted rest := by
  rw [accepted, List.filter_cons_of_neg (by rw [h]; simp [Except.toOption])]
  rfl

theorem refused_cons_of_ok (h : Packet.read d c.ingress = .ok p) (rest : List Datagram) :
    c.refused (d :: rest) = c.refused rest := by
  rw [refused, List.countP_cons_of_neg (by rw [h]; simp [Except.toOption])]
  rfl

theorem refused_cons_of_error (h : Packet.read d c.ingress = .error e) (rest : List Datagram) :
    c.refused (d :: rest) = c.refused rest + 1 := by
  rw [refused, List.countP_cons_of_pos (by rw [h]; rfl)]
  rfl

/-- The packets have the octets of the datagrams that can be read. -/
theorem data_packets (c : Capture) (clock : Nat → Nat) (turn : Nat) (datagrams : List Datagram) :
    (c.packets clock turn datagrams).map (fun a => a.2.data) = c.accepted datagrams := by
  induction datagrams generalizing turn c with
  | nil => rfl
  | cons d rest ih =>
    cases hr : Packet.read d c.ingress with
    | ok p =>
      have haccepted : { c with handedOut := c.handedOut + 1 }.accepted rest = c.accepted rest := rfl
      have hdata : (p.withTicket c.handedOut).data = d := (Packet.origin_of_read hr).1
      rw [packets_cons_of_ok hr, accepted_cons_of_ok hr, List.map_cons, ih, haccepted, hdata]
    | error e => rw [packets_cons_of_error hr, accepted_cons_of_error hr, ih]

/-- A datagram can be read or not. -/
theorem length_accepted_add_refused (c : Capture) (datagrams : List Datagram) :
    (c.accepted datagrams).length + c.refused datagrams = datagrams.length := by
  induction datagrams with
  | nil => rfl
  | cons d rest ih =>
    cases hr : Packet.read d c.ingress with
    | ok p =>
      rw [accepted_cons_of_ok hr, refused_cons_of_ok hr, List.length_cons, List.length_cons, ← ih]
      omega
    | error e => rw [accepted_cons_of_error hr, refused_cons_of_error hr, List.length_cons, ← ih, Nat.add_assoc]

end Capture

/-! ## What is counted of arrivals -/

namespace Metrics

theorem aside_received (ingress : String) (bytes : Nat) : Aside fun m => m.received ingress bytes :=
  fun _ _ _ => rfl

theorem aside_rxErrors : Aside fun m => m.inc .rxErrors := by
  intro m c _
  cases c <;> rfl

theorem add_add (m : Metrics) (c : Counter) (a b : UInt64) : (m.add c a).add c b = m.add c (a + b) := by
  cases c <;> simp [add, Totals.add, UInt64.add_assoc]

variable {m : Metrics} {ingress : String} {refused : Nat}

theorem arrived_nil (m : Metrics) (ingress : String) : m.arrived ingress [] 0 = m := by
  simp [arrived, add, Totals.add]

/-- A packet may be counted before the others. -/
theorem arrived_received (p : Packet) (rest : List Packet) :
    (m.received ingress p.length).arrived ingress rest refused = m.arrived ingress (p :: rest) refused := rfl

/-- A datagram that could not be read may be counted before the others. -/
theorem arrived_inc (packets : List Packet) :
    (m.inc .rxErrors).arrived ingress packets refused = m.arrived ingress packets (refused + 1) := by
  rw [arrived, arrived, inc, add_add, UInt64.add_comm, ← UInt64.ofNat_one, ← UInt64.ofNat_add]

theorem totals_arrived (m : Metrics) (ingress : String) (packets : List Packet) (refused : Nat) :
    (m.arrived ingress packets refused).totals = m.totals.add .rxErrors (UInt64.ofNat refused) := by
  induction packets generalizing m with
  | nil => rfl
  | cons p rest ih =>
    rw [← arrived_received, ih]
    rfl

/-- The tally of the interface has all packets and their octets. -/
theorem tally_arrived (m : Metrics) (ingress : String) (packets : List Packet) (refused : Nat) :
    ((m.arrived ingress packets refused).tally ingress).rxPackets =
        (m.tally ingress).rxPackets + UInt64.ofNat packets.length ∧
      ((m.arrived ingress packets refused).tally ingress).rxBytes =
        (m.tally ingress).rxBytes + UInt64.ofNat (packets.map Packet.length).sum := by
  induction packets generalizing m with
  | nil => exact ⟨(UInt64.add_zero _).symm, (UInt64.add_zero _).symm⟩
  | cons p rest ih =>
    obtain ⟨hpackets, hbytes⟩ := ih (m.received ingress p.length)
    have hone : (m.received ingress p.length).tally ingress = (m.tally ingress).received p.length :=
      (m.tally_onInterface ingress ingress _).trans (if_pos rfl)
    rw [← arrived_received, hpackets, hbytes, hone, List.length_cons, List.map_cons, List.sum_cons,
      Nat.add_comm rest.length]
    constructor <;> simp [InterfaceTally.received, UInt64.ofNat_add, UInt64.add_assoc]

end Metrics

/-! ## The loop -/

namespace Plane

section Aside

variable {F : Metrics → Metrics} (hF : Metrics.Aside F)
include hF

theorem processAll_onMetrics (pl : Plane) (packets : List (Nat × Packet)) :
    (pl.onMetrics F).processAll packets = (pl.processAll packets).onMetrics F := by
  induction packets generalizing pl with
  | nil => rfl
  | cons a rest ih =>
    rw [processAll, List.foldl_cons, process_onMetrics hF]
    exact ih _

theorem givenUp_onMetrics (pl : Plane) (packets : List (Nat × Packet)) :
    (pl.onMetrics F).givenUp packets = pl.givenUp packets := by
  induction packets generalizing pl with
  | nil => rfl
  | cons a rest ih =>
    rw [givenUp, givenUp, process_onMetrics hF]
    exact congrArg _ (ih _)

end Aside

theorem processAll_arrivals (pl : Plane) (packets : List (Nat × Packet)) :
    (pl.processAll packets).metrics.totals.rxErrors = pl.metrics.totals.rxErrors ∧
      (pl.processAll packets).metrics.interfaces = pl.metrics.interfaces := by
  induction packets generalizing pl with
  | nil => exact ⟨rfl, rfl⟩
  | cons a rest ih =>
    obtain ⟨herrors, hinterfaces⟩ := pl.process_arrivals a.1 a.2
    rw [← herrors, ← hinterfaces]
    exact ih _

variable {w : Watch} {turn : Nat}

/-- What is left of a router and a capture when datagrams were read to their end from a turn on. -/
def readToEnd (pl : Plane) (w : Watch) (turn : Nat) (c : Capture) (datagrams : List Datagram) : Ingested :=
  let packets := c.packets w.clock turn datagrams
  { plane := (pl.processAll packets).onMetrics fun m =>
      m.arrived c.ingress (packets.map Prod.snd) (c.refused datagrams)
    capture := { c with
      pending := []
      handedOut := c.handedOut + (c.accepted datagrams).length
      released := c.released ++ tickets (pl.givenUp packets) }
    failure := none }

theorem readToEnd_nil (pl : Plane) (w : Watch) (turn : Nat) (c : Capture) :
    pl.readToEnd w turn c [] = ⟨pl, { c with pending := [] }, none⟩ := by
  calc
    pl.readToEnd w turn c [] = ⟨pl.onMetrics fun m => m.arrived c.ingress [] 0,
        { c with pending := [], released := c.released ++ [] }, none⟩ := rfl
    _ = ⟨pl, { c with pending := [] }, none⟩ := by
      rw [onMetrics, Metrics.arrived_nil, List.append_nil]

/-- The first datagram of several gives a packet. -/
theorem readToEnd_cons_of_ok {pl : Plane} {c : Capture} {d : Datagram} {p : Packet}
    (h : Packet.read d c.ingress = .ok p) (rest : List Datagram) :
    let r := pl.receive (w.clock turn) (p.withTicket c.handedOut)
    pl.readToEnd w turn c (d :: rest) =
      r.plane.readToEnd w (turn + 1) ({ c with handedOut := c.handedOut + 1 }.release r.discarded.toList) rest := by
  have haside := Metrics.aside_received c.ingress p.length
  have hreceive : pl.receive (w.clock turn) (p.withTicket c.handedOut) =
      (pl.process (w.clock turn) (p.withTicket c.handedOut)).onMetrics fun m => m.received c.ingress p.length := by
    rw [← process_onMetrics haside, ← (Packet.origin_of_read h).2]
    rfl
  dsimp only
  rw [hreceive, readToEnd, Capture.packets_cons_of_ok h, Capture.accepted_cons_of_ok h, Capture.refused_cons_of_ok h,
    readToEnd]
  dsimp only [Processed.onMetrics]
  rw [processAll_onMetrics haside, givenUp_onMetrics haside, givenUp, tickets_append, ← List.append_assoc,
    List.length_cons, ← Nat.add_assoc, Nat.add_right_comm]
  rfl

/-- The first datagram of several cannot be read. -/
theorem readToEnd_cons_of_error {pl : Plane} {c : Capture} {d : Datagram} {e : Error}
    (h : Packet.read d c.ingress = .error e) (rest : List Datagram) :
    pl.readToEnd w turn c (d :: rest) = (pl.count .rxErrors).readToEnd w (turn + 1) c rest := by
  have hcount : pl.count .rxErrors = pl.onMetrics fun m => m.inc .rxErrors := rfl
  rw [hcount, readToEnd, Capture.packets_cons_of_error h, Capture.accepted_cons_of_error h,
    Capture.refused_cons_of_error h, readToEnd]
  rw [processAll_onMetrics Metrics.aside_rxErrors, givenUp_onMetrics Metrics.aside_rxErrors]
  simp only [onMetrics, Metrics.arrived_inc]

/-- Datagrams are read to their end, whatever is wrong with some of them, if nobody stops the loop. -/
theorem ingestArrivals_eq (hw : w.Quiet) (turn : Nat) (pl : Plane) (c : Capture) (datagrams : List Datagram) :
    ingestArrivals w turn pl c (datagrams.map .datagram) = pl.readToEnd w turn c datagrams := by
  induction datagrams generalizing turn pl c with
  | nil => exact (pl.readToEnd_nil w turn c).symm
  | cons d rest ih =>
    rw [List.map_cons, ingestArrivals, hw turn, Arrival.read]
    dsimp only
    cases hr : Packet.read d c.ingress with
    | ok p =>
      rw [readToEnd_cons_of_ok hr]
      exact ih _ _ _
    | error e =>
      have hfault := Packet.isDatagramFault_of_read hr
      rw [readToEnd_cons_of_error hr, ← ih]
      cases e with
      | closed => cases hfault
      | _ => exact if_pos hfault

/-- A router that is fed with datagrams, while nobody stops it and whoever could do so outlives it, reads them to their
end without a failure. It processes the packets of those that can be read, each once, in their order and at its time,
and of the others it takes no notice but to count them. Each datagram is handed out or counted, and the interface has
received the datagrams that can be read, with all their octets, modulo `2 ^ 64`. -/
theorem ingest_datagrams (hw : w.Quiet) (pl : Plane) (c : Capture) (datagrams : List Datagram) :
    let accepted := c.accepted datagrams
    let refused := c.refused datagrams
    let packets := c.packets w.clock 0 datagrams
    let after := pl.processAll packets
    let r := pl.ingest w { c with pending := datagrams.map .datagram }
    r.failure = none ∧
      r.capture = { c with
        pending := []
        handedOut := c.handedOut + accepted.length
        released := c.released ++ tickets (pl.givenUp packets) } ∧
      r.plane = { after with metrics := after.metrics.arrived c.ingress (packets.map Prod.snd) refused } ∧
      packets.map (fun a => a.2.data) = accepted ∧
      accepted.length + refused = datagrams.length ∧
      r.plane.metrics.totals.rxErrors = pl.metrics.totals.rxErrors + UInt64.ofNat refused ∧
      (r.plane.metrics.tally c.ingress).rxPackets =
        (pl.metrics.tally c.ingress).rxPackets + UInt64.ofNat accepted.length ∧
      (r.plane.metrics.tally c.ingress).rxBytes =
        (pl.metrics.tally c.ingress).rxBytes + UInt64.ofNat (accepted.map List.length).sum := by
  intro accepted refused packets after r
  have hr : r = pl.readToEnd w 0 c datagrams :=
    ingestArrivals_eq hw 0 pl { c with pending := datagrams.map .datagram } datagrams
  have hdata : packets.map (fun a => a.2.data) = accepted := c.data_packets w.clock 0 datagrams
  have hcount : (packets.map Prod.snd).length = accepted.length := by
    rw [List.length_map, ← hdata, List.length_map]
  have hlengths : (packets.map Prod.snd).map Packet.length = accepted.map List.length := by
    rw [← hdata, List.map_map, List.map_map]
    rfl
  obtain ⟨herrors, hinterfaces⟩ := pl.processAll_arrivals packets
  obtain ⟨hpackets, hbytes⟩ := after.metrics.tally_arrived c.ingress (packets.map Prod.snd) refused
  have htally : after.metrics.tally c.ingress = pl.metrics.tally c.ingress := by
    rw [Metrics.tally, Metrics.tally, hinterfaces]
  have htotals := congrArg Totals.rxErrors (after.metrics.totals_arrived c.ingress (packets.map Prod.snd) refused)
  rw [hr]
  refine ⟨rfl, rfl, rfl, hdata, c.length_accepted_add_refused datagrams, ?_, ?_, ?_⟩
  · rw [← herrors]
    exact htotals
  · rw [← htally, ← hcount]
    exact hpackets
  · rw [← htally, ← hlengths]
    exact hbytes

/-- Two datagrams that can be read, the second of them longer, among others: an empty one, one that is cut off, and one
of an unknown version. -/
def mixedDatagrams : List Datagram :=
  [[], V4Header.build 64 1 0x0A000001 0x0A000002 [8, 0], [0x45, 0],
    V4Header.build 64 17 0x0A000001 0x0A000002 [4, 210, 0, 53, 0, 8, 0, 0], [0x50]]

/-- They are read by a router on a clock that goes on by a second at each turn. -/
theorem ingest_datagrams_mixed :
    let w : Watch := ⟨fun turn => turn * Duration.second, fun _ => .lowered⟩
    let c := Capture.ofDatagrams "lan0" mixedDatagrams
    let r := (Plane.new .default 0).ingest w c
    w.Quiet ∧ r.failure = none ∧ r.capture.pending = [] ∧ r.capture.handedOut = 2 ∧
      (c.packets w.clock 0 mixedDatagrams).map Prod.fst = [Duration.second, 3 * Duration.second] ∧
      r.plane.metrics.totals.rxErrors = 3 ∧ (r.plane.metrics.tally "lan0").rxPackets = 2 ∧
      (r.plane.metrics.tally "lan0").rxBytes = 50 := by
  intro w c r
  have hw : w.Quiet := fun _ => rfl
  have haccepted : (c.accepted mixedDatagrams).map List.length = [22, 28] := by decide
  have hcount : (c.accepted mixedDatagrams).length = 2 := by rw [← List.length_map, haccepted]; rfl
  have hrefused : c.refused mixedDatagrams = 3 := by decide
  obtain ⟨hfailure, hcapture, -, -, -, herrors, hpackets, hbytes⟩ :=
    ingest_datagrams hw (Plane.new .default 0) c mixedDatagrams
  have hc : { c with pending := mixedDatagrams.map .datagram } = c := rfl
  rw [hc] at hfailure hcapture herrors hpackets hbytes
  rw [hcount] at hcapture hpackets
  rw [hrefused] at herrors
  rw [haccepted] at hbytes
  exact ⟨hw, hfailure, congrArg Capture.pending hcapture, congrArg Capture.handedOut hcapture, by decide,
    herrors.trans (by decide), hpackets.trans (by decide), hbytes.trans (by decide)⟩

end Plane

end Router
