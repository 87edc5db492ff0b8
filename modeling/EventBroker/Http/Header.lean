import EventBroker.Bytes

/-!
Header names and values. A name is a token; a value holds visible bytes, blanks,
tabs and bytes outside ASCII. Names differ only up to the case of their letters, so
they are kept in lower case.
-/
namespace EventBroker.Http

def tokenMarks : Bytes := Bytes.ofString "!#$%&'*+-.^_\x60|~"

def isLetter (b : UInt8) : Bool := 65 ≤ b && b ≤ 90 || 97 ≤ b && b ≤ 122

def isTokenByte (b : UInt8) : Bool := isLetter b || Bytes.isDigit b || tokenMarks.contains b

def maxNameLength : Nat := 65535

def isName (s : Bytes) : Bool := !s.isEmpty && s.length ≤ maxNameLength && s.all isTokenByte

def isValueByte (b : UInt8) : Bool := b == 9 || 32 ≤ b && b != 127

def isValue (s : Bytes) : Bool := s.all isValueByte

structure Header where
  name : String
  value : Bytes
  deriving Repr, DecidableEq

abbrev Headers := List Header

namespace Headers

def get? (hs : Headers) (name : String) : Option Bytes :=
  (hs.find? (·.name == name)).map (·.value)

def set (hs : Headers) (name : String) (value : Bytes) : Headers :=
  hs.filter (·.name != name) ++ [⟨name, value⟩]

def sorted (hs : Headers) : Headers := hs.mergeSort fun a b => decide (a.name ≤ b.name)

end Headers

end EventBroker.Http
