import EventBroker.Duration.Seconds

/-!
How long to wait before the next connection. The delay grows by a constant factor
with each attempt and is cut at a maximum; a server may suggest another first
delay. With jitter on, each delay is scaled by a draw between 3/4 and 5/4.
-/
namespace EventBroker

structure Backoff where
  /-- Connections after the first one; zero puts no bound on them. -/
  maxAttempts : Nat := 5
  initialDelay : Duration := .ofMillis 500
  maxDelay : Duration := .ofMillis 30000
  multiplier : Double := .ofFloat 2
  jitter : Bool := true
  deriving Repr, DecidableEq

namespace Backoff

inductive Fault
  | smallMultiplier
  | delaysOutOfOrder
  deriving Repr, DecidableEq

def Fault.message : Fault → String
  | .smallMultiplier => "retry multiplier must be >= 1.0"
  | .delaysOutOfOrder => "retry max_delay must be >= initial_delay"

def check (p : Backoff) : Except Fault Unit :=
  if p.multiplier.toFloat < 1 then .error .smallMultiplier
  else if p.maxDelay.nanos < p.initialDelay.nanos then .error .delaysOutOfOrder
  else .ok ()

/-- Whether there is one more connection after `attempt` of them in a row without progress. -/
def allows (p : Backoff) (attempt : Nat) : Bool := p.maxAttempts == 0 || attempt ≤ p.maxAttempts

/-- `r * a ^ n` by repeated squaring; the order of the products fixes the rounding. -/
def powerFrom (r a : Float) (n : Nat) : Float :=
  if n = 0 then r
  else powerFrom (if n % 2 = 1 then r * a else r) (if n / 2 = 0 then a else a * a) (n / 2)

def power (a : Float) (n : Nat) : Float := powerFrom 1 a n

/-- The smaller of two numbers, the other one if one is not a number. -/
def smaller (a b : Float) : Float :=
  if a.isNaN then b else if b.isNaN then a else if b < a then b else a

/-- The exponent of an attempt; from the thirty-third on it stays. -/
def exponent (attempt : Nat) : Nat := min (attempt - 1) 32

/-- The delay before attempt `attempt`, counted from one. `base` takes the place of the
initial delay, and `draw` scales the result when jitter is on. -/
def delay (p : Backoff) (attempt : Nat) (base : Option Duration) (draw : Float) :
    Except Duration.SecondsFault Duration :=
  let first := (base.getD p.initialDelay).toSeconds
  let capped := smaller (first * power p.multiplier.toFloat (exponent attempt)) p.maxDelay.toSeconds
  let scaled := if p.jitter then capped * draw else capped
  Duration.ofSeconds (smaller scaled p.maxDelay.toSeconds)

end Backoff

end EventBroker
