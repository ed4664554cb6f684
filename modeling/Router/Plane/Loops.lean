import Router.Capture
import Router.Plane

/-!
# Feeding and draining the router

Packets are read and processed until the source closes or fails, taken out and sent in batches until none may leave,
and what was idle for too long is forgotten from time to time. Time goes by while packets are read, and before each of
them the loop may be told to stop, or find that nobody is left who could tell it (`Watch`). The other loops do nothing
if they were told to stop before they start.
-/

namespace Router

/-! ## In -/

/-- What a loop finds of the signal to stop. -/
inductive Signal
  /-- The signal is not raised, and somebody may raise it. -/
  | lowered
  /-- The loop is told to stop. -/
  | raised
  /-- Whoever could raise the signal is gone, so the loop stops. -/
  | dropped
  deriving DecidableEq, Repr

/-- What a loop that reads packets observes: the clock and the signal to stop, at each of its turns. -/
structure Watch where
  clock : Nat → Nat
  signal : Nat → Signal

/-- The signal is never raised, and whoever could raise it outlives the loop. -/
def Watch.Quiet (w : Watch) : Prop :=
  ∀ turn, w.signal turn = .lowered

/-- A clock that stands still, and a signal that stays as it is. -/
def Watch.still (now : Nat) (signal : Signal) : Watch :=
  ⟨fun _ => now, fun _ => signal⟩

/-- The state after packets were read. -/
structure Ingested where
  plane : Plane
  capture : Capture
  /-- Why reading ended, if not because the source closed. -/
  failure : Option Error

/-- Whether a failure concerns one datagram only, so that the next one can be read. -/
def Error.isDatagramFault : Error → Bool
  | .malformed _ | .packetTooShort _ _ | .unsupportedVersion _ => true
  | _ => false

namespace Plane

/-- The router after a packet came in, and what became of the packet. -/
def receive (pl : Plane) (now : Nat) (p : Packet) : Processed :=
  { pl with metrics := pl.metrics.received p.ingress p.length }.process now p

/-- Reads and processes arrivals from a turn on, one at each turn, which are those that `c` has pending. -/
def ingestArrivals (w : Watch) (turn : Nat) (pl : Plane) (c : Capture) : List Arrival → Ingested
  | [] => ⟨pl, { c with pending := [] }, none⟩
  | arrival :: pending =>
    match w.signal turn with
    | .raised | .dropped => ⟨pl, { c with pending := arrival :: pending }, none⟩
    | .lowered =>
      match arrival.read c.ingress c.handedOut with
      | .ok p =>
        let r := pl.receive (w.clock turn) p
        let c := { c with handedOut := c.handedOut + 1 }.release r.discarded.toList
        ingestArrivals w (turn + 1) r.plane c pending
      | .error .closed => ⟨pl, { c with pending }, none⟩
      | .error e =>
        if e.isDatagramFault then ingestArrivals w (turn + 1) (pl.count .rxErrors) c pending
        else ⟨pl, { c with pending }, some e⟩

/-- Reads and processes packets until the source closes or fails or the loop is to stop. -/
def ingest (pl : Plane) (w : Watch) (c : Capture) : Ingested :=
  ingestArrivals w 0 pl c c.pending

/-! ## Out -/

end Plane

/-- The state after packets were taken out. -/
structure Egressed where
  plane : Plane
  /-- The packets taken out, in order; they are done with. -/
  taken : List Packet
  /-- The frames that were sent, in order. -/
  written : List Frame

namespace Plane

/-- Sends packets and counts what becomes of them; `sends` tells by number and frame whether sending succeeds. -/
def send (m : Metrics) (sends : Nat → Frame → Bool) (number : Nat) : List Packet → List Frame × Metrics
  | [] => ([], m)
  | p :: rest =>
    if sends number p.frame then
      let (written, m) := send (m.sent p.egress p.length) sends (number + 1) rest
      (p.frame :: written, m)
    else send (m.failed p.egress) sends (number + 1) rest

/-- Takes out up to `batch` packets and sends them. -/
def egressOnce (pl : Plane) (now batch : Nat) (sends : Nat → Frame → Bool) : Egressed :=
  let (taken, qos) := pl.qos.dequeueBatch now batch
  let (written, metrics) := send pl.metrics sends 0 taken
  ⟨{ pl with qos, metrics }, taken, written⟩

/-- Takes out and sends up to `rounds` batches, until a batch is empty. -/
def egressRounds (now batch : Nat) (sends : Nat → Frame → Bool) : (rounds : Nat) → Plane → Egressed
  | 0, pl => ⟨pl, [], []⟩
  | rounds + 1, pl =>
    let first := pl.egressOnce now batch sends
    if first.taken.isEmpty then first
    else
      let rest := egressRounds now batch sends rounds first.plane
      ⟨rest.plane, first.taken ++ rest.taken, first.written ++ rest.written⟩

/-- Takes out and sends batches until none may leave at this time. Each batch but the last takes a packet out, so
there are at most as many as packets, and one more. -/
def egress (pl : Plane) (now batch : Nat) (sends : Nat → Frame → Bool) (done : Bool) : Egressed :=
  if done then ⟨pl, [], []⟩ else egressRounds now batch sends (pl.qos.totalQueued + 1) pl

/-! ## Upkeep -/

/-- Forgets flows idle for longer than `flowTimeout` and windows that are over. -/
def maintain (pl : Plane) (now flowTimeout : Nat) (done : Bool) : Plane :=
  if done then pl else { pl with nat := pl.nat.expire now flowTimeout, ids := pl.ids.prune now }

end Plane

end Router
