/-!
Doubles by their bits: a sign, an exponent of eleven bits, and a fraction of fifty-two. A
finite double is its significand times a power of two. Exponents count from the smallest
one, so that `unitExponent` stands for the power zero.
-/
namespace EventBroker

/-- A double that keeps all of its bits, so that values that are no number have a sign too. -/
structure Double where
  bits : UInt64
  deriving Repr, DecidableEq, Inhabited

namespace Double

def ofFloat (x : Float) : Double := ⟨x.toBits⟩

def toFloat (x : Double) : Float := Float.ofBits x.bits

def fractionLimit : Nat := 4503599627370496
def exponentLimit : Nat := 2048
def signBit : Nat := fractionLimit * exponentLimit
def unitExponent : Nat := 1075

def isNegative (x : Double) : Bool := signBit ≤ x.bits.toNat

def negate (x : Double) : Double := ⟨x.bits ^^^ UInt64.ofNat signBit⟩

def fraction (x : Double) : Nat := x.bits.toNat % fractionLimit

/-- The exponent as it is written; zero and the smallest doubles have zero there. -/
def field (x : Double) : Nat := x.bits.toNat / fractionLimit % exponentLimit

def isFinite (x : Double) : Bool := x.field + 1 < exponentLimit

def exponent (x : Double) : Nat := max x.field 1

def significand (x : Double) : Nat :=
  if x.field = 0 then x.fraction else fractionLimit + x.fraction

end Double

end EventBroker
