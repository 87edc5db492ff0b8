/-!
Hexadecimal digits by their codes, for bytes and characters alike. Digits are read in
either case.
-/
namespace EventBroker.Hex

def value? (code : Nat) : Option Nat :=
  if 48 ≤ code ∧ code ≤ 57 then some (code - 48)
  else if 65 ≤ code ∧ code ≤ 70 then some (code - 55)
  else if 97 ≤ code ∧ code ≤ 102 then some (code - 87)
  else none

def digit (n : Nat) : Nat := if n < 10 then 48 + n else 55 + n

/-- The number written by a row of digits; other characters count as zeros. -/
def number (s : String) : Nat := s.foldl (fun n c => 16 * n + (value? c.toNat).getD 0) 0

def numeral (n : Nat) : String := String.ofList (Nat.toDigits 16 n)

end EventBroker.Hex
