/-!
Lengths of time, counted in nanoseconds. The clock of the library reads the same
unit, so an age is a difference of two counts.
-/
namespace EventBroker

structure Duration where
  nanos : Nat
  deriving Repr, DecidableEq

namespace Duration

def zero : Duration := ⟨0⟩

def nanosPerMilli : Nat := 1000000
def nanosPerSecond : Nat := 1000000000

def ofMillis (n : Nat) : Duration := ⟨n * nanosPerMilli⟩

def toMillis (d : Duration) : Nat := d.nanos / nanosPerMilli

/-- Whole milliseconds, a started one counted in full: timers wait no less than they are told. -/
def ceilMillis (d : Duration) : Nat := (d.nanos + (nanosPerMilli - 1)) / nanosPerMilli

def seconds (d : Duration) : Nat := d.nanos / nanosPerSecond

def subsecond (d : Duration) : Nat := d.nanos % nanosPerSecond

def isZero (d : Duration) : Bool := d.nanos == 0

end Duration

end EventBroker
