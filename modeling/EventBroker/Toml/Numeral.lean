import EventBroker.Text.Hex
import EventBroker.Value

/-!
Numbers of a TOML document: integers in four notations, and decimal fractions with an
exponent, infinity, and values that are no number. Each function takes a whole word.
-/
namespace EventBroker.Toml

def hexValue? (c : Char) : Option Nat := Hex.value? c.toNat

/-- The digits of a number; an underscore has to stand between two of them. -/
def digits? (isDigit : Char → Bool) : List Char → Option (List Char)
  | [] => none
  | [c] => if isDigit c then some [c] else none
  | c :: '_' :: rest => if isDigit c then (digits? isDigit rest).map (c :: ·) else none
  | c :: rest => if isDigit c then (digits? isDigit rest).map (c :: ·) else none

def isRadixDigit (radix : Nat) (c : Char) : Bool :=
  match hexValue? c with
  | none => false
  | some v => v < radix

def radixNumber? (radix : Nat) (s : List Char) : Option Nat :=
  (digits? (isRadixDigit radix) s).map fun ds =>
    ds.foldl (fun n c => radix * n + (hexValue? c).getD 0) 0

def integerLimit : Int := 9223372036854775808

def inRange? (n : Int) : Option Value :=
  if -integerLimit ≤ n ∧ n < integerLimit then some (.integer n) else none

def splitSign : List Char → Bool × List Char
  | '-' :: rest => (true, rest)
  | '+' :: rest => (false, rest)
  | s => (false, s)

def decimal? (s : List Char) : Option (List Char) :=
  match digits? Char.isDigit s with
  | some ds => if 1 < ds.length ∧ s.head? = some '0' then none else some ds
  | none => none

def number (ds : List Char) : Nat := ds.foldl (fun n c => 10 * n + (c.toNat - 48)) 0

def integer? (s : List Char) : Option Value :=
  match s with
  | '0' :: 'x' :: rest => (radixNumber? 16 rest).bind fun n => inRange? n
  | '0' :: 'o' :: rest => (radixNumber? 8 rest).bind fun n => inRange? n
  | '0' :: 'b' :: rest => (radixNumber? 2 rest).bind fun n => inRange? n
  | _ =>
    let (negative, rest) := splitSign s
    (decimal? rest).bind fun ds => inRange? (if negative then -(number ds : Int) else number ds)

def scientific (n : Nat) (e : Int) : Double :=
  .ofFloat (Float.ofScientific n (e < 0) e.natAbs)

/-- Exponents from here on are all the same to a double with this many digits. -/
def clampExponent (count : Nat) (e : Int) : Int :=
  max (-(400 + count : Int)) (min (400 + count) e)

def isExponentMark (c : Char) : Bool := c == 'e' || c == 'E'

def exponent? : List Char → Option Int
  | [] => some 0
  | _ :: rest =>
    let (negative, digits) := splitSign rest
    (digits? Char.isDigit digits).map fun ds => if negative then -(number ds : Int) else number ds

def fraction? : List Char → Option (List Char)
  | [] => some []
  | _ :: rest => digits? Char.isDigit rest

def signed (negative : Bool) (x : Double) : Value := .float (if negative then x.negate else x)

def infinity : Double := .ofFloat (1.0 / 0.0)
def notANumber : Double := .ofFloat (0.0 / 0.0)

/-- A numeral too large for a double is refused unless it has a minus sign. -/
def finite? (negative : Bool) (x : Double) : Option Value :=
  if x.isFinite || negative then some (signed negative x) else none

def float? (s : List Char) : Option Value :=
  let (negative, rest) := splitSign s
  if rest = "inf".toList then some (signed negative infinity)
  else if rest = "nan".toList then some (signed negative notANumber)
  else if !rest.any (fun c => c == '.' || isExponentMark c) then none
  else
    let mantissa := rest.takeWhile (!isExponentMark ·)
    match decimal? (mantissa.takeWhile (· != '.')), fraction? (mantissa.dropWhile (· != '.')),
        exponent? (rest.dropWhile (!isExponentMark ·)) with
    | some whole, some places, some e =>
      let e := clampExponent (whole.length + places.length) (e - places.length)
      finite? negative (scientific (number (whole ++ places)) e)
    | _, _, _ => none

end EventBroker.Toml
