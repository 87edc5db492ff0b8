import EventBroker.Text.Direction
import EventBroker.Text.Joining
import EventBroker.Text.Mark
import EventBroker.Text.Parts
import EventBroker.Url.Domain.Mapping
import EventBroker.Url.Punycode

/-!
International domains and their ASCII form. A domain is brought into plain and composed
characters and cut into labels at its dots; a label with characters beyond ASCII is then
written in Punycode behind a mark of four characters. A label that has that form already is
read back, and has to be one that would be written so.
-/
namespace EventBroker.Domain

open Text

def refusedSigns : List Char := "%#/:<>?@[\\]^|".toList

def isAllowed (c : Char) : Bool := 32 < c.toNat && c.toNat ≠ 127 && !refusedSigns.contains c

def plain? (s : List Char) : Option (List Char) :=
  match s.mapM plainForm? with
  | none => none
  | some forms =>
    let text := composed forms.flatten
    if text.all isAllowed then some text else none

structure Label where
  text : List Char
  written : List Char
  deriving Repr, DecidableEq

/-- A longer label is refused if it has characters beyond ASCII. -/
def maxLabelLength : Nat := 1000

def maxCodeLength : Nat := 2000

def beginsWithMark (s : List Char) : Bool := s.head?.any isMark

def isLabel (s : List Char) : Bool :=
  !beginsWithMark s && joinsWell [] s && (s.all Punycode.isBasic || s.length ≤ maxLabelLength)

def codeMark : List Char := ['x', 'n', '-', '-']

def isPlain (s : List Char) : Bool :=
  s.all (fun c => plainForm? c == some [c] && isAllowed c) && composed s == s

def decode? (code : List Char) : Option (List Char) :=
  if code.isEmpty ∨ code.getLast? = some '-' ∨ maxCodeLength < code.length then none
  else (Punycode.decode? code).bind fun text => if isPlain text then some text else none

namespace Label

def ofPlain? (s : List Char) : Option Label :=
  let label? : Option Label :=
    if codeMark.isPrefixOf s then (decode? (s.drop codeMark.length)).map fun text => ⟨text, s⟩
    else if s.all Punycode.isBasic then some ⟨s, s⟩
    else some ⟨s, codeMark ++ Punycode.encode s⟩
  label?.bind fun label => if isLabel label.text then some label else none

end Label

/-- Whether the labels keep their order next to each other; where all of them run from left to
right they do. -/
def isOrdered (labels : List Label) : Bool :=
  !labels.any (fun label => turnsRight label.text) || labels.all fun label => isSteady label.text

def toAscii? (s : List Char) : Option (List Char) :=
  match (plain? s).bind fun text => (partsBetween '.' text).mapM Label.ofPlain? with
  | none => none
  | some labels =>
    if isOrdered labels then some (List.intercalate ['.'] (labels.map (·.written))) else none

end EventBroker.Domain
