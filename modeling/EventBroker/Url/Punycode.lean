/-!
Punycode, which writes a label of any characters with letters, digits and hyphens.
The characters beyond ASCII are put in by increasing code point, each as a number of
steps in a variable-length notation whose digit weights follow a running bias.
-/
namespace EventBroker.Punycode

def digitChar (d : Nat) : Char := if d < 26 then Char.ofNat (97 + d) else Char.ofNat (22 + d)

def digitValue? (c : Char) : Option Nat :=
  if 'a' ≤ c ∧ c ≤ 'z' then some (c.toNat - 97)
  else if 'A' ≤ c ∧ c ≤ 'Z' then some (c.toNat - 65)
  else if '0' ≤ c ∧ c ≤ '9' then some (c.toNat - 22)
  else none

def threshold (k bias : Nat) : Nat := min 26 (max 1 (k - bias))

def settle : Nat → Nat → Nat → Nat × Nat
  | 0, delta, k => (delta, k)
  | fuel + 1, delta, k => if 455 < delta then settle fuel (delta / 35) (k + 36) else (delta, k)

def adapt (delta count : Nat) (first : Bool) : Nat :=
  let delta := if first then delta / 700 else delta / 2
  let (delta, k) := settle 32 (delta + delta / count) 0
  k + 36 * delta / (delta + 38)

def writeSteps : Nat → Nat → Nat → Nat → List Char
  | 0, _, _, _ => []
  | fuel + 1, q, k, bias =>
    let t := threshold k bias
    if q < t then [digitChar q]
    else digitChar (t + (q - t) % (36 - t)) :: writeSteps fuel ((q - t) / (36 - t)) (k + 36) bias

/-- The state of writing: the output, newest digit first, and the running numbers. -/
structure Writer where
  output : List Char
  delta : Nat
  bias : Nat
  handled : Nat
  basic : Nat

/-- Passes one character of the label while the code point `n` is being put in. -/
def Writer.pass (n : Nat) (w : Writer) (c : Char) : Writer :=
  if c.toNat < n then { w with delta := w.delta + 1 }
  else if c.toNat = n then
    { w with
      output := (writeSteps 64 w.delta 36 w.bias).reverse ++ w.output
      delta := 0
      bias := adapt w.delta (w.handled + 1) (w.handled == w.basic)
      handled := w.handled + 1 }
  else w

/-- Puts in the code points `points`, which increase, into a label; `n` is the least one not
yet considered. -/
def writePoints (label : List Char) : List Nat → Nat → Writer → Writer
  | [], _, w => w
  | point :: rest, n, w =>
    let w := { w with delta := w.delta + (point - n) * (w.handled + 1) }
    let w := label.foldl (Writer.pass point) w
    writePoints label rest (point + 1) { w with delta := w.delta + 1 }

def isBasic (c : Char) : Bool := c.toNat < 128

def encode (label : List Char) : List Char :=
  let basic := label.filter isBasic
  let points := ((label.filter (!isBasic ·)).map (·.toNat)).mergeSort.eraseDups
  let start := if basic.isEmpty then [] else '-' :: basic.reverse
  let writer : Writer :=
    { output := start, delta := 0, bias := 72, handled := basic.length, basic := basic.length }
  (writePoints label points 128 writer).output.reverse

def stepLimit : Nat := 4294967296

def readSteps : List Char → Nat → Nat → Nat → Nat → Option (Nat × List Char)
  | [], _, _, _, _ => none
  | c :: rest, i, w, k, bias =>
    match digitValue? c with
    | none => none
    | some d =>
      let t := threshold k bias
      if stepLimit ≤ i + d * w ∨ stepLimit ≤ w then none
      else if d < t then some (i + d * w, rest)
      else readSteps rest (i + d * w) (w * (36 - t)) (k + 36) bias

def readPoints : Nat → List Char → List Char → Nat → Nat → Nat → Option (List Char)
  | 0, digits, output, _, _, _ => if digits.isEmpty then some output else none
  | _, [], output, _, _, _ => some output
  | fuel + 1, digits, output, n, i, bias =>
    match readSteps digits i 1 36 bias with
    | none => none
    | some (i', rest) =>
      let size := output.length + 1
      let n := n + i' / size
      let place := i' % size
      if 0x10ffff < n ∨ 0xd800 ≤ n ∧ n < 0xe000 then none
      else
        readPoints fuel rest (output.take place ++ Char.ofNat n :: output.drop place) n (place + 1)
          (adapt (i' - i) size (i == 0))

def decode? (text : List Char) : Option (List Char) :=
  let reversed := text.reverse
  let digits := (reversed.takeWhile (· != '-')).reverse
  let basic := ((reversed.dropWhile (· != '-')).drop 1).reverse
  if basic.all isBasic then readPoints text.length digits basic 128 0 72 else none

end EventBroker.Punycode
