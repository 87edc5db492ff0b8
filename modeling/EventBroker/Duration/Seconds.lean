import EventBroker.Double
import EventBroker.Duration

/-!
Lengths of time as double-precision seconds. Reading one back gives the nearest
nanosecond, a half going to the even neighbour; it is worked out from the bits of
the number, so no rounding but this one takes place.
-/
namespace EventBroker

/-- The natural number nearest to `num / den`, a half going to the even one. -/
def roundHalfEven (num den : Nat) : Nat :=
  let whole := num / den
  let rest := 2 * (num % den)
  if rest < den ∨ rest = den ∧ whole % 2 = 0 then whole else whole + 1

namespace Duration

def toSeconds (d : Duration) : Float :=
  Float.ofNat d.seconds + Float.ofNat d.subsecond / 1000000000

inductive SecondsFault
  | negative
  | tooBig
  deriving Repr, DecidableEq

def SecondsFault.message : SecondsFault → String
  | .negative => "cannot convert float seconds to Duration: value is negative"
  | .tooBig => "cannot convert float seconds to Duration: value is either too big or NaN"

/-- Seconds from 2^64 on and values that are no number are too big. -/
def ofSeconds (x : Float) : Except SecondsFault Duration :=
  if x < 0 then .error .negative
  else
    let m := (Double.ofFloat x).significand
    let exponent := (Double.ofFloat x).exponent
    if Double.unitExponent + 12 ≤ exponent then .error .tooBig
    else if Double.unitExponent ≤ exponent then
      .ok ⟨m * Nat.pow 2 (exponent - Double.unitExponent) * nanosPerSecond⟩
    else .ok ⟨roundHalfEven (m * nanosPerSecond) (Nat.pow 2 (Double.unitExponent - exponent))⟩

end Duration

end EventBroker
