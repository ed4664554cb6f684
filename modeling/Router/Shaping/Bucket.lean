/-!
# Token buckets

A bucket fills at a steady rate up to what one second brings, and a packet leaves when its octets can be paid for. A
packet larger than the whole bucket leaves when the bucket is full, and empties it; otherwise it could never leave.
-/

namespace Router

/-- A token bucket, in octets. -/
structure Bucket where
  /-- Octets per second, and the most the bucket holds. -/
  rate : Float
  tokens : Float
  /-- When the bucket was last filled, in nanoseconds. -/
  refilled : Nat

namespace Bucket

/-- A full bucket for a rate in kilobits per second. -/
def full (kbps : UInt64) (now : Nat) : Bucket :=
  let rate := kbps.toFloat * 1000.0 / 8.0
  ⟨rate, rate, now⟩

/-- Nanoseconds as seconds. -/
def seconds (nanoseconds : Nat) : Float :=
  (UInt64.ofNat (nanoseconds / 1000000000)).toFloat +
    (UInt64.ofNat (nanoseconds % 1000000000)).toFloat / 1000000000.0

/-- The bucket with what the time since the last filling brought. -/
def refill (b : Bucket) (now : Nat) : Bucket :=
  { b with tokens := min (b.tokens + seconds (now - b.refilled) * b.rate) b.rate, refilled := now }

/-- Whether a packet of `octets` may leave, and the bucket after it. -/
def take (b : Bucket) (octets now : Nat) : Bool × Bucket :=
  let b := b.refill now
  let size := (UInt64.ofNat octets).toFloat
  if size ≤ b.tokens then (true, { b with tokens := b.tokens - size })
  else if b.rate < size ∧ b.rate ≤ b.tokens then (true, { b with tokens := 0.0 })
  else (false, b)

end Bucket

end Router
