/-!
Byte strings are lists of bytes, so that every reader and writer of the library
is a recursion on a list. The named bytes are those that frame an event on the
wire; text enters as its UTF-8 bytes.
-/
namespace EventBroker

abbrev Bytes := List UInt8

namespace Bytes

def lineFeed : UInt8 := 10
def carriageReturn : UInt8 := 13
def space : UInt8 := 32
def colon : UInt8 := 58

def isTerminator (b : UInt8) : Bool := b == lineFeed || b == carriageReturn

def isDigit (b : UInt8) : Bool := 48 ≤ b && b ≤ 57

def ofString (s : String) : Bytes := s.toList.flatMap String.utf8EncodeChar

/-- Bytewise order, in which a proper beginning comes first. -/
def lt : Bytes → Bytes → Bool
  | _, [] => false
  | [], _ :: _ => true
  | a :: s, b :: t => a < b || a == b && lt s t

/-- The cut at the first byte that satisfies `p`: what stands before it and what follows it. -/
def cutAt (p : UInt8 → Bool) (s : Bytes) : Bytes × Option Bytes :=
  match s.dropWhile (fun b => !p b) with
  | [] => (s, none)
  | _ :: rest => (s.takeWhile (fun b => !p b), some rest)

end Bytes

end EventBroker
