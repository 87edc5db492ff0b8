import EventBroker.Text.Hex

/-!
Tables over code points. A table is written in words of hexadecimal numbers: one code
point, a range `first-last`, or with a slash every second code point of a range, and
after a colon the values that go with them, with dots in between.
-/
namespace EventBroker.Text

/-- The code points from `first` to `last` in steps of `step`, and their values. -/
structure Row where
  first : Nat
  last : Nat
  step : Nat
  values : List Nat
  deriving Repr, DecidableEq

namespace Row

def covers (r : Row) (n : Nat) : Bool :=
  r.first ≤ n && n ≤ r.last && (n - r.first) % r.step == 0

/-- The values for a code point. A single value is that of the first code point, and grows
with the others. -/
def image (r : Row) (n : Nat) : List Nat :=
  match r.values with
  | [v] => [v + (n - r.first)]
  | values => values

def ofSpan (span : String) (values : List Nat) : Row :=
  match span.splitOn "-", span.splitOn "/" with
  | [first, last], _ => ⟨Hex.number first, Hex.number last, 1, values⟩
  | _, [first, last] => ⟨Hex.number first, Hex.number last, 2, values⟩
  | _, _ => ⟨Hex.number span, Hex.number span, 1, values⟩

def ofWord (word : String) : Row :=
  match word.splitOn ":" with
  | [span, values] => ofSpan span ((values.splitOn ".").map Hex.number)
  | _ => ofSpan word []

end Row

abbrev Table := List Row

namespace Table

def ofText (s : String) : Table :=
  ((s.splitOn "\n").flatMap (·.splitOn " ")).filterMap fun word =>
    if word.isEmpty then none else some (.ofWord word)

def row? (t : Table) (n : Nat) : Option Row := t.find? (·.covers n)

def has (t : Table) (c : Char) : Bool := (t.row? c.toNat).isSome

/-- The value for a code point where all code points of a row share theirs. -/
def value? (t : Table) (c : Char) : Option Nat := (t.row? c.toNat).bind (·.values.head?)

end Table

end EventBroker.Text
