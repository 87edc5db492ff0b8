import EventBroker.Bytes

/-!
Decimal numerals over bytes. `natural` reads digits only; `word` adds the rules
for a 64-bit number in free text: an optional plus sign, any number of leading
zeros, and no value from 2^64 on.
-/
namespace EventBroker.Decimal

def digitValue (b : UInt8) : Nat := b.toNat - 48

def ofDigits (s : Bytes) : Nat := s.foldl (fun n b => 10 * n + digitValue b) 0

def wordLimit : Nat := 18446744073709551616

def natural (s : Bytes) : Option Nat :=
  if s ≠ [] ∧ s.all Bytes.isDigit then some (ofDigits s) else none

def belowWordLimit (n : Nat) : Option Nat := if n < wordLimit then some n else none

def word (s : Bytes) : Option Nat :=
  match s with
  | 43 :: digits => (natural digits).bind belowWordLimit
  | _ => (natural s).bind belowWordLimit

def digitByte (n : Nat) : UInt8 := UInt8.ofNat (48 + n % 10)

def encodeWithin : Nat → Nat → Bytes
  | 0, _ => []
  | places + 1, n => if n < 10 then [digitByte n] else encodeWithin places (n / 10) ++ [digitByte n]

def encode (n : Nat) : Bytes := encodeWithin (n + 1) n

end EventBroker.Decimal
