import EventBroker.Text.Hex
import EventBroker.Text.Parts

/-!
Internet addresses of both versions in text. One of version four has up to four numbers
between dots, the last of which fills the bytes that are left; one of version six has eight
groups between colons, of which a row of zeros may be left out once.
-/
namespace EventBroker.Net

def digitValue? (radix : Nat) (c : Char) : Option Nat :=
  (Hex.value? c.toNat).filter (· < radix)

def number? (radix : Nat) (s : List Char) : Option Nat :=
  (s.mapM (digitValue? radix)).map fun ds => ds.foldl (fun n d => radix * n + d) 0

/-- A number that is hexadecimal, octal or decimal by its beginning. -/
def part? : List Char → Option Nat
  | [] => none
  | ['0', 'x'] => none
  | ['0', 'X'] => none
  | '0' :: 'x' :: rest => number? 16 rest
  | '0' :: 'X' :: rest => number? 16 rest
  | '0' :: c :: rest => number? 8 (c :: rest)
  | s => number? 10 s

def ofParts? (numbers : List Nat) : Option Nat :=
  match numbers.reverse with
  | [] => none
  | last :: before =>
    if 3 < before.length ∨ Nat.pow 256 (4 - before.length) ≤ last ∨ before.any (255 < ·) then none
    else some (before.reverse.zipIdx.foldl (fun n (v, i) => n + v * Nat.pow 256 (3 - i)) last)

def read4? (s : List Char) : Option Nat :=
  ((Text.partsBetween '.' s).mapM part?).bind ofParts?

def write4 (n : Nat) : String :=
  ".".intercalate ([3, 2, 1, 0].map fun i => toString (n / Nat.pow 256 i % 256))

def group? (s : List Char) : Option Nat :=
  if 0 < s.length ∧ s.length ≤ 4 then number? 16 s else none

def decimalByte? (s : List Char) : Option Nat :=
  if s.isEmpty ∨ 1 < s.length ∧ s.head? = some '0' ∨ 3 < s.length then none
  else (number? 10 s).bind fun n => if n < 256 then some n else none

def dottedGroups? (s : List Char) : Option (List Nat) :=
  match (Text.partsBetween '.' s).mapM decimalByte? with
  | some [a, b, c, d] => some [a * 256 + b, c * 256 + d]
  | _ => none

/-- The groups of a part without a gap; a dotted address may stand last where `last` says so. -/
def groups? (last : Bool) (s : List Char) : Option (List Nat) :=
  if s.isEmpty then some []
  else
    let parts := Text.partsBetween ':' s
    match parts.getLast? with
    | none => some []
    | some tail =>
      if last && tail.contains '.' then do
        return (← parts.dropLast.mapM group?) ++ (← dottedGroups? tail)
      else parts.mapM group?

def splitGap (before : List Char) : List Char → Option (List Char × List Char)
  | ':' :: ':' :: rest => some (before.reverse, rest)
  | c :: rest => splitGap (c :: before) rest
  | [] => none

def read6? (s : List Char) : Option (List Nat) :=
  match splitGap [] s with
  | none => (groups? true s).bind fun gs => if gs.length = 8 then some gs else none
  | some (before, after) => do
    let head ← groups? false before
    let tail ← groups? true after
    if 7 < head.length + tail.length then none
    return head ++ List.replicate (8 - head.length - tail.length) 0 ++ tail

/-- The place and the length of the first longest run of zeros that is longer than one. -/
def longestGap (groups : List Nat) : Option (Nat × Nat) :=
  let runs := (List.range groups.length).map fun i =>
    (i, ((groups.drop i).takeWhile (· == 0)).length)
  runs.foldl (fun best (i, n) =>
    match best with
    | some (_, m) => if m < n then some (i, n) else best
    | none => if 1 < n then some (i, n) else none) none

def writeGroups (groups : List Nat) : String :=
  ":".intercalate (groups.map fun n => String.ofList (Nat.toDigits 16 n))

def write6 (groups : List Nat) : String :=
  match longestGap groups with
  | none => writeGroups groups
  | some (i, n) => writeGroups (groups.take i) ++ "::" ++ writeGroups (groups.drop (i + n))

end EventBroker.Net
