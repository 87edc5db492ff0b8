import EventBroker.Bytes

/-!
Base64 over the standard alphabet. Encoding always pads. Decoding takes only
what encoding writes: whole quads, padding where it belongs, and zero in the
bits that no byte uses; `Fault` tells which of these rules a text breaks first.
-/
namespace EventBroker.Base64

def pad : UInt8 := 61

def symbol (n : Nat) : UInt8 :=
  if n < 26 then UInt8.ofNat (65 + n)
  else if n < 52 then UInt8.ofNat (71 + n)
  else if n < 62 then UInt8.ofNat (n - 4)
  else if n = 62 then 43 else 47

def value? (b : UInt8) : Option Nat :=
  if 65 ≤ b && b ≤ 90 then some (b.toNat - 65)
  else if 97 ≤ b && b ≤ 122 then some (b.toNat - 71)
  else if 48 ≤ b && b ≤ 57 then some (b.toNat + 4)
  else if b == 43 then some 62
  else if b == 47 then some 63
  else none

def quad (a b c : UInt8) : Bytes :=
  [symbol (a.toNat / 4), symbol (a.toNat % 4 * 16 + b.toNat / 16),
    symbol (b.toNat % 16 * 4 + c.toNat / 64), symbol (c.toNat % 64)]

/-- Appends the quads of a byte string to what is written already, newest first. -/
def encodeOnto (written : Bytes) : Bytes → Bytes
  | a :: b :: c :: rest => encodeOnto ((quad a b c).reverse ++ written) rest
  | [a, b] =>
    pad :: symbol (b.toNat % 16 * 4) :: symbol (a.toNat % 4 * 16 + b.toNat / 16) ::
      symbol (a.toNat / 4) :: written
  | [a] => pad :: pad :: symbol (a.toNat % 4 * 16) :: symbol (a.toNat / 4) :: written
  | [] => written

def encode (s : Bytes) : Bytes := (encodeOnto [] s).reverse

inductive Fault
  | symbol (byte : UInt8) (offset : Nat)
  | length (symbols : Nat)
  | padding
  | lastSymbol (byte : UInt8) (offset : Nat)
  deriving Repr, DecidableEq

def Fault.message : Fault → String
  | .symbol byte offset => s!"Invalid symbol {byte}, offset {offset}."
  | .length symbols => s!"Invalid input length: {symbols}"
  | .padding => "Invalid padding"
  | .lastSymbol byte offset => s!"Invalid last symbol {byte}, offset {offset}."

/-- The values of a row of symbols, newest first, or the first byte that is none. -/
def symbols (offset : Nat) (values : List Nat) : Bytes → Except Fault (List Nat)
  | [] => .ok values
  | b :: rest =>
    match value? b with
    | none => .error (.symbol b offset)
    | some v => symbols (offset + 1) (v :: values) rest

/-- The last quad of a text as far as it is read: its symbols, newest first with
their values, and how much padding follows them. -/
structure Tail where
  read : List (UInt8 × Nat) := []
  padding : Nat := 0
  deriving Repr, DecidableEq

/-- Reads the last quad from the left. A pad at its first two places is a stray
symbol, and so is the first pad once anything but padding follows it. -/
def readTail (start : Nat) (t : Tail) : Bytes → Except Fault Tail
  | [] => .ok t
  | b :: rest =>
    if b == pad then
      if t.read.length + t.padding < 2 then .error (.symbol pad (start + t.read.length + t.padding))
      else readTail start { t with padding := t.padding + 1 } rest
    else if t.padding ≠ 0 then .error (.symbol pad (start + t.read.length))
    else
      match value? b with
      | none => .error (.symbol b (start + t.read.length))
      | some v => readTail start { t with read := (b, v) :: t.read } rest

def Tail.bytes (start : Nat) (t : Tail) : Except Fault Bytes :=
  if t.read.length < 2 then .error (.length (start + t.read.length))
  else if (t.read.length + t.padding) % 4 ≠ 0 then .error .padding
  else
    match t.read with
    | [(last, v1), (_, v0)] =>
      if v1 % 16 ≠ 0 then .error (.lastSymbol last (start + 1))
      else .ok [UInt8.ofNat (v0 * 4 + v1 / 16)]
    | [(last, v2), (_, v1), (_, v0)] =>
      if v2 % 4 ≠ 0 then .error (.lastSymbol last (start + 2))
      else .ok [UInt8.ofNat (v0 * 4 + v1 / 16), UInt8.ofNat (v1 % 16 * 16 + v2 / 4)]
    | [(_, v3), (_, v2), (_, v1), (_, v0)] =>
      .ok [UInt8.ofNat (v0 * 4 + v1 / 16), UInt8.ofNat (v1 % 16 * 16 + v2 / 4),
        UInt8.ofNat (v2 % 4 * 64 + v3)]
    | _ => .error .padding

def packOnto (after : Bytes) : List Nat → Bytes
  | v3 :: v2 :: v1 :: v0 :: rest =>
    packOnto (UInt8.ofNat (v0 * 4 + v1 / 16) :: UInt8.ofNat (v1 % 16 * 16 + v2 / 4) ::
      UInt8.ofNat (v2 % 4 * 64 + v3) :: after) rest
  | _ => after

/-- A lone last byte outside the alphabet is reported before anything else. -/
def strayEnd (s : Bytes) : Option Fault :=
  if s.length % 4 = 1 then
    match s.getLast? with
    | some b => if b ≠ pad ∧ (value? b).isNone then some (.symbol b (s.length - 1)) else none
    | none => none
  else none

def quadsBefore (n : Nat) : Nat := (n - 1) / 4 * 4

def decode (s : Bytes) : Except Fault Bytes :=
  match s, strayEnd s with
  | [], _ => .ok []
  | _, some fault => .error fault
  | _, none =>
    let start := quadsBefore s.length
    match symbols 0 [] (s.take start) with
    | .error fault => .error fault
    | .ok values =>
      match readTail start {} (s.drop start) with
      | .error fault => .error fault
      | .ok tail =>
        match tail.bytes start with
        | .error fault => .error fault
        | .ok last => .ok (packOnto last values)

end EventBroker.Base64
