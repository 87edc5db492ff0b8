import EventBroker.Double

/-!
The shortest decimal that reads back as a given double. Of the decimals in the
interval of numbers that round to it, those with the fewest digits are taken, and of
these the one nearest to the double. All steps are exact. The text of a double puts the
point at its place where few zeros are needed, and writes an exponent elsewhere.
-/
namespace EventBroker.Shortest

structure Ratio where
  num : Nat
  den : Nat
  deriving Repr, DecidableEq

def scaled (n exponent : Nat) : Ratio :=
  if Double.unitExponent ≤ exponent then ⟨n * Nat.pow 2 (exponent - Double.unitExponent), 1⟩
  else ⟨n, Nat.pow 2 (Double.unitExponent - exponent)⟩

/-- The value of a finite double and the ends of its rounding interval, which belong to it if
the significand is even. -/
structure Interval where
  low : Ratio
  value : Ratio
  high : Ratio
  closed : Bool
  deriving Repr

/-- The interval of a positive finite double. All three numbers are multiples of a quarter of
its last place. -/
def Interval.ofDouble (x : Double) : Interval :=
  let m := x.significand
  let e := x.exponent
  let quarter (n : Nat) : Ratio := ⟨(scaled n e).num, (scaled n e).den * 4⟩
  let gap := if x.fraction = 0 ∧ 1 < e then 1 else 2
  ⟨quarter (4 * m - gap), quarter (4 * m), quarter (4 * m + 2), m % 2 = 0⟩

def Ratio.le (a b : Ratio) : Bool := a.num * b.den ≤ b.num * a.den
def Ratio.lt (a b : Ratio) : Bool := a.num * b.den < b.num * a.den

def decimal (n : Nat) (k : Int) : Ratio :=
  match k with
  | .ofNat k => ⟨n * Nat.pow 10 k, 1⟩
  | .negSucc k => ⟨n, Nat.pow 10 (k + 1)⟩

def Interval.holds (i : Interval) (x : Ratio) : Bool :=
  if i.closed then i.low.le x && x.le i.high else i.low.lt x && x.lt i.high

def places (n : Nat) : Nat := (Nat.toDigits 10 n).length

def leadingZeros : Nat → Nat → Nat → Nat
  | 0, _, _ => 0
  | fuel + 1, num, den => if den ≤ num * 10 then 0 else leadingZeros fuel (num * 10) den + 1

def leadExponent (x : Ratio) : Int :=
  if x.den ≤ x.num then (places (x.num / x.den) : Int) - 1
  else -1 - (leadingZeros 400 x.num x.den : Int)

/-- A decimal: its digits as a number, and the power of ten of the last one. -/
structure Decimal where
  digits : Nat
  exponent : Int
  deriving Repr, DecidableEq

/-- A decimal of `count` digits, or of one if counting up has carried over all of them. -/
def Decimal.ofCarried (count digits : Nat) (exponent : Int) : Decimal :=
  if digits = Nat.pow 10 count then ⟨1, exponent + count⟩ else ⟨digits, exponent⟩

def nearest? (i : Interval) (lead : Int) (count : Nat) : Option Decimal :=
  let exponent := lead - count + 1
  let unit := decimal 1 exponent
  let below := i.value.num * unit.den / (i.value.den * unit.num)
  let low := decimal below exponent
  let high := decimal (below + 1) exponent
  match i.holds low, i.holds high with
  | true, false => some ⟨below, exponent⟩
  | false, true => some (.ofCarried count (below + 1) exponent)
  | false, false => none
  | true, true =>
    -- compares value - low with high - value
    let doubled : Ratio := ⟨i.value.num * 2, i.value.den⟩
    let middle := decimal (2 * below + 1) exponent
    if doubled.lt middle || !middle.lt doubled && below % 2 = 0 then some ⟨below, exponent⟩
    else some (.ofCarried count (below + 1) exponent)

/-- The shortest decimal of a positive finite double; seventeen digits always suffice. -/
def ofDouble (x : Double) : Decimal :=
  let i := Interval.ofDouble x
  let lead := leadExponent i.value
  ((List.range 17).findSome? fun n => nearest? i lead (n + 1)).getD ⟨0, 0⟩

def Decimal.positional (d : Decimal) : String :=
  let digits := Nat.toDigits 10 d.digits
  match d.exponent with
  | .ofNat k => String.ofList (digits ++ List.replicate k '0') ++ ".0"
  | .negSucc k =>
    let padded := List.replicate (k + 2 - digits.length) '0' ++ digits
    let whole := padded.length - (k + 1)
    String.ofList (padded.take whole) ++ "." ++ String.ofList (padded.drop whole)

def Decimal.lead (d : Decimal) : Int := d.exponent + places d.digits - 1

def writeExponent (e : Int) : String := if e < 0 then toString e else "+" ++ toString e

/-- The decimal with one digit before the point and an exponent; no point behind a sole digit. -/
def Decimal.scientific (d : Decimal) : String :=
  let mantissa := match Nat.toDigits 10 d.digits with
    | first :: second :: rest => first :: '.' :: second :: rest
    | digits => digits
  String.ofList mantissa ++ "e" ++ writeExponent d.lead

/-- Numbers from 1e-5 on and below 1e16 are written without an exponent. -/
def Decimal.text (d : Decimal) : String :=
  if -5 ≤ d.lead ∧ d.lead < 16 then d.positional else d.scientific

def text (x : Double) : String :=
  let sign := if x.isNegative then "-" else ""
  if !x.isFinite then if x.fraction = 0 then sign ++ "inf" else "NaN"
  else if x.significand = 0 then sign ++ "0.0"
  else sign ++ (ofDouble x).text

end EventBroker.Shortest
