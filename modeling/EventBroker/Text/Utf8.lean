import EventBroker.Bytes

/-!
UTF-8 reading. `scan` cuts a byte string into scalar values and malformed runs,
each run as long as it could still have become a scalar value. The strict
reading refuses any malformed run, the lenient one writes U+FFFD for it.
-/
namespace EventBroker.Utf8

/-- A scalar value under way: how many bytes are missing, the range the next one
must fall into, and the bits read so far. -/
structure Partial where
  missing : Nat
  low : UInt8
  high : UInt8
  bits : Nat
  deriving Repr, DecidableEq

inductive Lead
  | scalar (c : Char)
  | more (p : Partial)
  | malformed
  deriving Repr, DecidableEq

def lead (b : UInt8) : Lead :=
  if b < 0x80 then .scalar (Char.ofNat b.toNat)
  else if b < 0xc2 then .malformed
  else if b < 0xe0 then .more ⟨1, 0x80, 0xbf, b.toNat - 0xc0⟩
  else if b == 0xe0 then .more ⟨2, 0xa0, 0xbf, 0⟩
  else if b == 0xed then .more ⟨2, 0x80, 0x9f, 13⟩
  else if b < 0xf0 then .more ⟨2, 0x80, 0xbf, b.toNat - 0xe0⟩
  else if b == 0xf0 then .more ⟨3, 0x90, 0xbf, 0⟩
  else if b < 0xf4 then .more ⟨3, 0x80, 0xbf, b.toNat - 0xf0⟩
  else if b == 0xf4 then .more ⟨3, 0x80, 0x8f, 4⟩
  else .malformed

/-- The state of a scan: the scalar value under way, and what is finished, newest first.
`none` stands for a malformed run. -/
structure Scan where
  current : Option Partial := none
  finished : List (Option Char) := []
  deriving Repr, DecidableEq

def Scan.start (s : Scan) (b : UInt8) : Scan :=
  match lead b with
  | .scalar c => ⟨none, some c :: s.finished⟩
  | .more p => ⟨some p, s.finished⟩
  | .malformed => ⟨none, none :: s.finished⟩

def Scan.step (s : Scan) (b : UInt8) : Scan :=
  match s.current with
  | none => s.start b
  | some p =>
    if p.low ≤ b && b ≤ p.high then
      let bits := p.bits * 64 + (b.toNat - 0x80)
      if p.missing ≤ 1 then ⟨none, some (Char.ofNat bits) :: s.finished⟩
      else ⟨some ⟨p.missing - 1, 0x80, 0xbf, bits⟩, s.finished⟩
    else Scan.start ⟨none, none :: s.finished⟩ b

def Scan.finish (s : Scan) : List (Option Char) :=
  match s.current with
  | none => s.finished.reverse
  | some _ => (none :: s.finished).reverse

def scan (s : Bytes) : List (Option Char) := (s.foldl Scan.step {}).finish

def decode? (s : Bytes) : Option String := ((scan s).mapM id).map String.ofList

def lenient (s : Bytes) : String :=
  String.ofList ((scan s).map fun c => c.getD (Char.ofNat 0xfffd))

end EventBroker.Utf8
