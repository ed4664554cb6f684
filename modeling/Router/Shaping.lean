import Router.Error
import Router.Ranking
import Router.Shaping.ClassQueue
import Router.Text.Notation

/-!
# Traffic shaping

A scheduler holds the class queues in the order in which they are served: by descending priority, equal ones in the
order they were given, and the default class last. A packet waits in the first class that matches it, or in the
default class. Taking a packet out serves the first class that has one and whose bucket pays for it, so that a class
out of tokens never holds up those behind it.
-/

namespace Router

/-- The class queues of a router. -/
structure Scheduler where
  /-- The classes but the default one, in the order they are served. -/
  ranked : List ClassQueue
  /-- The default class, served last. -/
  fallback : ClassQueue

namespace Scheduler

/-- The scheduler with the default class alone. -/
def new (now : Nat) : Scheduler :=
  ⟨[], ClassQueue.new .default now⟩

/-- All queues in the order they are served. -/
def queues (s : Scheduler) : List ClassQueue :=
  s.ranked ++ [s.fallback]

/-- All classes in the order they are served. -/
def classes (s : Scheduler) : List TrafficClass :=
  s.queues.map ClassQueue.definition

/-- The number of packets that wait. -/
def totalQueued (s : Scheduler) : Nat :=
  s.queues.foldl (fun n q => n + q.packets.length) 0

/-- The queue of a name, if there is one. -/
def queue? (s : Scheduler) (name : String) : Option ClassQueue :=
  s.queues.find? (·.definition.name = name)

/-- Queues in the order they are served. -/
def rank (queues : List ClassQueue) : List ClassQueue :=
  Ranking.rank (fun a b => a.definition.before b.definition) queues

/-! ## Packets in and out -/

/-- Offers a packet to the first queue that matches it, if there is one. -/
def offerFirst? (p : Packet) : List ClassQueue → Option (Admission × List ClassQueue)
  | [] => none
  | q :: rest =>
    if q.definition.isMatch p then
      let (admission, q) := q.offer p
      some (admission, q :: rest)
    else (offerFirst? p rest).map fun (admission, rest) => (admission, q :: rest)

/-- The scheduler after a packet was offered to it. -/
def enqueue (s : Scheduler) (p : Packet) : Admission × Scheduler :=
  match offerFirst? p s.ranked with
  | some (admission, ranked) => (admission, { s with ranked })
  | none =>
    let (admission, fallback) := s.fallback.offer p
    (admission, { s with fallback })

/-- The packet that leaves the first queue that lets one go, and the queues after it. -/
def takeFirst (now : Nat) : List ClassQueue → Option Packet × List ClassQueue
  | [] => (none, [])
  | q :: rest =>
    match q.take now with
    | (some p, q) => (some p, q :: rest)
    | (none, q) =>
      let (p?, rest) := takeFirst now rest
      (p?, q :: rest)

/-- The next packet to leave, if any may, and the scheduler after it. -/
def dequeue (s : Scheduler) (now : Nat) : Option Packet × Scheduler :=
  match takeFirst now s.ranked with
  | (some p, ranked) => (some p, { s with ranked })
  | (none, ranked) =>
    let (p?, fallback) := s.fallback.take now
    (p?, ⟨ranked, fallback⟩)

/-- Up to `max` packets in the order they leave, and the scheduler after them. -/
def dequeueBatch (s : Scheduler) (now : Nat) : (max : Nat) → List Packet × Scheduler
  | 0 => ([], s)
  | max + 1 =>
    match s.dequeue now with
    | (none, s) => ([], s)
    | (some p, s) =>
      let (packets, s) := s.dequeueBatch now max
      (p :: packets, s)

/-! ## Changing the classes -/

/-- The scheduler with one more class; the name must be new. -/
def add (s : Scheduler) (now : Nat) (c : TrafficClass) : Except Error Scheduler :=
  if (s.queue? c.name).isSome then .error (.duplicateClass c.name)
  else .ok { s with ranked := rank (s.ranked ++ [ClassQueue.new c now]) }

/-- The scheduler without a class, and the packets that waited in it. The default class stays. -/
def remove? (s : Scheduler) (name : String) : Option (Scheduler × List Packet) :=
  if name = TrafficClass.defaultName then none
  else (s.ranked.find? (·.definition.name = name)).map fun q =>
    ({ s with ranked := s.ranked.eraseP (·.definition.name = name) }, q.packets)

/-- The scheduler with another definition for the class of that name, if there is one. -/
def update? (s : Scheduler) (now : Nat) (c : TrafficClass) : Option Scheduler :=
  if c.isDefault then some { s with fallback := s.fallback.redefine c now }
  else if s.ranked.any (·.definition.name = c.name) then
    some { s with
      ranked := rank (s.ranked.map fun q => if q.definition.name = c.name then q.redefine c now else q) }
  else none

/-- The classes of a list, of several of one name the first. -/
def firstByName (classes : List TrafficClass) : List TrafficClass :=
  classes.foldl (fun kept c => if kept.any (·.name = c.name) then kept else kept ++ [c]) []

/-- The scheduler with these classes, and the packets given up. A class whose name stays keeps its queue; a class
that is not listed goes, with its packets; the default class stays even if it is not listed. -/
def replace (s : Scheduler) (now : Nat) (classes : List TrafficClass) : Scheduler × List Packet :=
  let listed := firstByName classes
  let install (c : TrafficClass) : ClassQueue :=
    match s.ranked.find? (·.definition.name = c.name) with
    | some q => q.redefine c now
    | none => ClassQueue.new c now
  let ranked := rank ((listed.filter fun c => !c.isDefault).map install)
  let fallback :=
    match listed.find? TrafficClass.isDefault with
    | some c => s.fallback.redefine c now
    | none => s.fallback
  let gone := s.ranked.filter fun q => listed.all (·.name ≠ q.definition.name)
  (⟨ranked, fallback⟩, gone.flatMap ClassQueue.packets)

/-- The scheduler in diagnostics. -/
def describe (s : Scheduler) : String :=
  Text.describeRecord "QosManager" [("classes", toString s.queues.length), ("queued", toString s.totalQueued)]

end Scheduler

end Router
