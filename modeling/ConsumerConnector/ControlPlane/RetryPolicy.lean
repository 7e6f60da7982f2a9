import ConsumerConnector.Decimal.Digits
import ConsumerConnector.Decimal.Rounding
import ConsumerConnector.Decimal.Shortest
import ConsumerConnector.Dictionary

/-!
How often a failed call is repeated, and how long to pause before: the first pause grows by a factor
with every attempt, up to a longest pause. Pauses are in nanoseconds.
-/

namespace ConsumerConnector

structure RetryPolicy where
  maxAttempts : Nat
  initialDelay : Nat
  maxDelay : Nat
  multiplier : Float
  deriving DecidableEq

namespace RetryPolicy

def milliseconds (n : Nat) : Nat := n * 1000000

def default : RetryPolicy := ⟨3, milliseconds 500, milliseconds 5000, 2.0⟩

def noRetry : RetryPolicy := ⟨1, 0, 0, 1.0⟩

/-- `x` ^ `n` by repeated squaring, with `acc` as the product so far. -/
def power (acc x : Float) (n : Nat) : Float :=
  let acc := if n % 2 = 1 then acc * x else acc
  if n / 2 = 0 then acc else power acc (x * x) (n / 2)
termination_by n

/-- At least one; a factor that is no number counts as one. -/
def factor (multiplier : Float) : Float :=
  if multiplier > 1.0 then multiplier else 1.0

def seconds (nanos : Nat) : Float :=
  (nanos / 1000000000).toUInt64.toFloat + (nanos % 1000000000).toUInt64.toFloat / 1e9

/-- Seconds in whole nanoseconds, `none` for what is no duration. -/
def nanoseconds? (x : Float) : Option Nat :=
  if x.isFinite ∧ 0.0 ≤ x then
    let v := (Decimal.Binary.ofBits x.toBits).value
    some (Decimal.roundHalfEven (v.num * 1000000000) v.den)
  else none

/-- The exponent of the factor; it grows no further than a 31-bit number. -/
def exponent (attempt : Nat) : Nat :=
  min (attempt - 1) (Decimal.wordSize 31 - 1)

/-- The pause after a failed attempt, the first attempt being 1. -/
def delay (p : RetryPolicy) (attempt : Nat) : Nat :=
  match nanoseconds? (seconds p.initialDelay * power 1.0 (factor p.multiplier) (exponent attempt)) with
  | some d => min d p.maxDelay
  | none => p.maxDelay

/-- A call is attempted at least once. -/
def attempts (p : RetryPolicy) : Nat := max 1 p.maxAttempts

theorem delay_le_maxDelay (p : RetryPolicy) (attempt : Nat) : p.delay attempt ≤ p.maxDelay := by
  unfold delay
  split
  · exact Nat.min_le_right ..
  · exact Nat.le_refl _

end RetryPolicy

/-- A policy for each of some hosts, and one for all others. -/
structure RetryRegistry where
  default : RetryPolicy
  hosts : Dictionary RetryPolicy

namespace RetryRegistry

def policyFor (r : RetryRegistry) (host : String) : RetryPolicy :=
  (r.hosts.get? host).getD r.default

def withHost (r : RetryRegistry) (host : String) (p : RetryPolicy) : RetryRegistry :=
  { r with hosts := r.hosts.insert host p }

theorem policyFor_withHost (r : RetryRegistry) (host : String) (p : RetryPolicy) (name : String) :
    (r.withHost host p).policyFor name = if name = host then p else r.policyFor name := by
  rw [policyFor, withHost, Dictionary.get?_insert]
  split <;> rfl

end RetryRegistry

end ConsumerConnector
