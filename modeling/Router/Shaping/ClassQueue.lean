import Router.Packet
import Router.PortRange
import Router.Shaping.Bucket

/-!
# Traffic classes and their queues

A class says which packets it takes, how fast they leave, and how many may wait. Its queue keeps the packets in the
order of arrival, with a count of those admitted, taken out and discarded.
-/

namespace Router

/-! ## Vocabulary -/

/-- Which packet goes when a queue is full. -/
inductive DropPolicy
  /-- The one that arrives. -/
  | tail
  /-- The oldest one in the queue. -/
  | head
  deriving DecidableEq, Repr

namespace DropPolicy

/-- The name of a policy. -/
def name : DropPolicy → String
  | .tail => "tail"
  | .head => "head"

instance : Text.Keyword DropPolicy where
  noun := "drop policy"
  spelling := name
  all := [.tail, .head]
  absent := some .tail

instance : Text.Keyword.Sound DropPolicy where
  mem_all a := by cases a <;> decide
  ne_empty a := by cases a <;> decide
  foldCase_inj {a b} h := by cases a <;> cases b <;> first | rfl | (exact absurd h (by decide))

end DropPolicy

/-! ## Classes -/

/-- A traffic class; a predicate that is absent holds of every packet. -/
structure TrafficClass where
  name : String
  protocol : Option Protocol
  sourcePort : Option PortRange
  destinationPort : Option PortRange
  /-- Kilobits per second; zero means without limit. -/
  rateKbps : UInt64
  /-- Higher leaves first. -/
  priority : Int32
  /-- Most packets waiting; zero means without limit. -/
  maxQueue : UInt64
  dropPolicy : DropPolicy
  deriving DecidableEq, Repr

namespace TrafficClass

/-- The name of the class that takes what no other class does. -/
def defaultName : String := "default"

/-- A class that takes every packet, without limits. -/
def plain (name : String) (priority : Int32) : TrafficClass :=
  ⟨name, none, none, none, 0, priority, 0, .tail⟩

/-- The class that takes what no other class does, where none was given. -/
def default : TrafficClass :=
  plain defaultName 0

/-- Whether a class takes what no other class does. -/
def isDefault (c : TrafficClass) : Bool :=
  c.name = defaultName

/-- Whether all predicates of a class hold of a packet. -/
def isMatch (c : TrafficClass) (p : Packet) : Bool :=
  c.protocol.all (· = p.metadata.protocol)
    && PortRange.admits c.sourcePort p.metadata.sourcePort
    && PortRange.admits c.destinationPort p.metadata.destinationPort

/-- Whether packets of one class leave before those of another. -/
def before (a b : TrafficClass) : Bool :=
  b.priority < a.priority

end TrafficClass

/-! ## Queues -/

/-- What became of a packet that was offered to a class. -/
structure Admission where
  /-- The packet waits in the queue. -/
  accepted : Bool
  /-- The name of the class. -/
  className : String
  /-- The packet that was given up: the one offered, or the oldest in the queue. -/
  discarded : Option Packet
  deriving DecidableEq, Repr

/-- Whether some packet was given up. -/
def Admission.dropped (a : Admission) : Bool :=
  a.discarded.isSome

/-- A class with the packets that wait in it. -/
structure ClassQueue where
  definition : TrafficClass
  /-- The oldest packet first. -/
  packets : List Packet
  /-- Present if the class has a rate. -/
  bucket : Option Bucket
  enqueued : Nat
  dequeued : Nat
  dropped : Nat

namespace ClassQueue

/-- The bucket that a class starts with. -/
def bucketFor (c : TrafficClass) (now : Nat) : Option Bucket :=
  if c.rateKbps = 0 then none else some (Bucket.full c.rateKbps now)

/-- An empty queue. -/
def new (c : TrafficClass) (now : Nat) : ClassQueue :=
  ⟨c, [], bucketFor c now, 0, 0, 0⟩

/-- The queue under another definition; its packets and counts stay, and its bucket unless the rate is another. -/
def redefine (q : ClassQueue) (c : TrafficClass) (now : Nat) : ClassQueue :=
  { q with
    definition := c
    bucket := if c.rateKbps = q.definition.rateKbps then q.bucket else bucketFor c now }

/-- Whether no more packets may wait. -/
def isFull (q : ClassQueue) : Bool :=
  q.definition.maxQueue ≠ 0 && q.definition.maxQueue.toNat ≤ q.packets.length

/-- The queue after a packet was offered to it. -/
def offer (q : ClassQueue) (p : Packet) : Admission × ClassQueue :=
  let name := q.definition.name
  if q.isFull then
    match q.definition.dropPolicy with
    | .tail => (⟨false, name, some p⟩, { q with dropped := q.dropped + 1 })
    | .head =>
      (⟨true, name, q.packets.head?⟩,
        { q with packets := q.packets.tail ++ [p], enqueued := q.enqueued + 1, dropped := q.dropped + 1 })
  else (⟨true, name, none⟩, { q with packets := q.packets ++ [p], enqueued := q.enqueued + 1 })

/-- The oldest packet, if there is one and the bucket pays for it, and the queue after it. -/
def take (q : ClassQueue) (now : Nat) : Option Packet × ClassQueue :=
  match q.packets, q.bucket with
  | [], _ => (none, q)
  | p :: rest, none => (some p, { q with packets := rest, dequeued := q.dequeued + 1 })
  | p :: rest, some bucket =>
    let (granted, bucket) := bucket.take p.length now
    if granted then (some p, { q with packets := rest, bucket := some bucket, dequeued := q.dequeued + 1 })
    else (none, { q with bucket := some bucket })

end ClassQueue

end Router
