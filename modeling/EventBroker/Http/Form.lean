import EventBroker.Text.Hex
import EventBroker.Text.Parts
import EventBroker.Text.Utf8

/-!
Form-encoded queries: pairs joined by ampersands, a plus sign for a space, and
percent escapes for everything else that is not plain. Reading never fails; an
escape that is none stands for itself.
-/
namespace EventBroker.Http.Form

def ampersand : UInt8 := 38
def equals : UInt8 := 61
def plus : UInt8 := 43
def percent : UInt8 := 37

def percentDecode : Bytes → Bytes
  | b :: high :: low :: rest =>
    if b = percent then
      match Hex.value? high.toNat, Hex.value? low.toNat with
      | some h, some l => UInt8.ofNat (16 * h + l) :: percentDecode rest
      | _, _ => b :: percentDecode (high :: low :: rest)
    else b :: percentDecode (high :: low :: rest)
  | b :: rest => b :: percentDecode rest
  | [] => []

def readText (s : Bytes) : String :=
  Utf8.lenient (percentDecode (s.map fun b => if b = plus then Bytes.space else b))

/-- A pair is cut at its first equals sign; without one its value is empty. -/
def readPair (s : Bytes) : String × String :=
  match Bytes.cutAt (· == equals) s with
  | (name, value) => (readText name, readText (value.getD []))

/-- The pairs of a query; empty parts are passed over. -/
def read (s : Bytes) : List (String × String) :=
  ((Text.partsBetween ampersand s).filter (!·.isEmpty)).map readPair

def percentEncode (b : UInt8) : Bytes :=
  [percent, UInt8.ofNat (Hex.digit (b.toNat / 16)), UInt8.ofNat (Hex.digit (b.toNat % 16))]

def isPlain (b : UInt8) : Bool :=
  48 ≤ b && b ≤ 57 || 65 ≤ b && b ≤ 90 || 97 ≤ b && b ≤ 122
    || b == 42 || b == 45 || b == 46 || b == 95

def writeByte (b : UInt8) : Bytes :=
  if b = Bytes.space then [plus] else if isPlain b then [b] else percentEncode b

def writeText (s : String) : Bytes := (Bytes.ofString s).flatMap writeByte

def writePair (name value : String) : Bytes := writeText name ++ equals :: writeText value

inductive Fault
  | duplicate (name : String)
  | missing (name : String)
  deriving Repr, DecidableEq

def Fault.message : Fault → String
  | .duplicate name => "duplicate field `" ++ name ++ "`"
  | .missing name => "missing field `" ++ name ++ "`"

def firstRepeated (names seen : List String) : List (String × String) → Option String
  | [] => none
  | (name, _) :: rest =>
    if names.contains name && seen.contains name then some name
    else firstRepeated names (name :: seen) rest

def readFields (names : List String) (s : Bytes) : Except Fault (List (String × String)) :=
  let pairs := read s
  match firstRepeated names [] pairs with
  | some name => .error (.duplicate name)
  | none => .ok pairs

end EventBroker.Http.Form
