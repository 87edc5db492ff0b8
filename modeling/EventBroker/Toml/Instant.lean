import EventBroker.Toml.Numeral

/-!
Instants of a TOML document: a date, a time of day, or both with an offset from universal
time where there is one. They have one written form, in which a setting that takes a table
gets them.
-/
namespace EventBroker.Toml

structure Date where
  year : Nat
  month : Nat
  day : Nat
  deriving Repr, DecidableEq

structure Clock where
  hour : Nat
  minute : Nat
  second : Nat
  nanosecond : Nat
  deriving Repr, DecidableEq

inductive Offset
  | universal
  | ahead (minutes : Nat)
  | behind (minutes : Nat)
  deriving Repr, DecidableEq

structure Instant where
  date : Option Date := none
  clock : Option Clock := none
  offset : Option Offset := none
  deriving Repr, DecidableEq

def fixed? (n : Nat) (s : List Char) : Option (Nat × List Char) :=
  let ds := s.take n
  if ds.length = n ∧ ds.all Char.isDigit then some (number ds, s.drop n) else none

def isLeapYear (y : Nat) : Bool := y % 4 == 0 && (y % 100 != 0 || y % 400 == 0)

def daysIn (y m : Nat) : Nat :=
  if m = 2 then if isLeapYear y then 29 else 28
  else if [4, 6, 9, 11].contains m then 30 else 31

def date? (s : List Char) : Option (Date × List Char) :=
  match fixed? 4 s with
  | some (y, '-' :: s) =>
    match fixed? 2 s with
    | some (m, '-' :: s) =>
      match fixed? 2 s with
      | some (d, s) =>
        if 1 ≤ m ∧ m ≤ 12 ∧ 1 ≤ d ∧ d ≤ daysIn y m then some (⟨y, m, d⟩, s) else none
      | none => none
    | _ => none
  | _ => none

def secondPlaces : Nat := 9

def nanoseconds? : List Char → Option (Nat × List Char)
  | '.' :: rest =>
    match rest.takeWhile Char.isDigit with
    | [] => none
    | digits =>
      let places := (digits ++ List.replicate secondPlaces '0').take secondPlaces
      some (number places, rest.dropWhile Char.isDigit)
  | s => some (0, s)

def clock? (s : List Char) : Option (Clock × List Char) :=
  match fixed? 2 s with
  | some (h, ':' :: s) =>
    match fixed? 2 s with
    | some (m, ':' :: s) =>
      match fixed? 2 s with
      | some (sec, s) =>
        if h ≤ 23 ∧ m ≤ 59 ∧ sec ≤ 60 then
          (nanoseconds? s).map fun (nanos, s) => (⟨h, m, sec, nanos⟩, s)
        else none
      | none => none
    | _ => none
  | _ => none

def span? (s : List Char) : Option Nat :=
  match fixed? 2 s with
  | some (h, ':' :: s) =>
    match fixed? 2 s with
    | some (m, []) => if h ≤ 23 ∧ m ≤ 59 then some (h * 60 + m) else none
    | _ => none
  | _ => none

def offset? : List Char → Option (Option Offset)
  | [] => some none
  | ['Z'] => some (some .universal)
  | ['z'] => some (some .universal)
  | '+' :: s => (span? s).map fun minutes => some (.ahead minutes)
  | '-' :: s => (span? s).map fun minutes => some (.behind minutes)
  | _ => none

def instant? (s : List Char) : Option Instant :=
  match date? s with
  | some (date, []) => some { date }
  | some (date, mark :: s) =>
    if mark == 'T' || mark == 't' || mark == ' ' then
      match clock? s with
      | none => none
      | some (clock, s) => (offset? s).map fun offset => { date, clock, offset }
    else none
  | none =>
    match clock? s with
    | some (clock, []) => some { clock }
    | _ => none

def padded (digits n : Nat) : String :=
  let text := toString n
  String.ofList (List.replicate (digits - text.length) '0') ++ text

def Date.text (d : Date) : String :=
  padded 4 d.year ++ "-" ++ padded 2 d.month ++ "-" ++ padded 2 d.day

def fractionText (nanosecond : Nat) : String :=
  if nanosecond = 0 then ""
  else
    let digits := (padded secondPlaces nanosecond).toList
    "." ++ String.ofList (digits.reverse.dropWhile (· == '0')).reverse

def Clock.text (c : Clock) : String :=
  padded 2 c.hour ++ ":" ++ padded 2 c.minute ++ ":" ++ padded 2 c.second
    ++ fractionText c.nanosecond

def spanText (minutes : Nat) : String := padded 2 (minutes / 60) ++ ":" ++ padded 2 (minutes % 60)

/-- No time behind is written as no time ahead. -/
def Offset.text : Offset → String
  | .universal => "Z"
  | .ahead minutes => "+" ++ spanText minutes
  | .behind minutes => (if minutes = 0 then "+" else "-") ++ spanText minutes

namespace Instant

def text (i : Instant) : String :=
  let date := (i.date.map Date.text).getD ""
  let mark := if i.date.isSome && i.clock.isSome then "T" else ""
  date ++ mark ++ (i.clock.map Clock.text).getD "" ++ (i.offset.map Offset.text).getD ""

def key : String := "$__toml_private_datetime"

def value (i : Instant) : Value := .table [(key, .string i.text)]

end Instant

end EventBroker.Toml
