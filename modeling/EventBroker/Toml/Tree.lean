import EventBroker.Value

/-!
The tables of a document under construction. A table is defined once: by its header,
or by the dotted keys that lead through it. Rows of tables grow by one with each
header of theirs, and a path through such a row leads to its last table.
-/
namespace EventBroker.Toml

/-- How a table came about: on the way to another one, by dotted keys, or by its header. -/
inductive Origin
  | implied
  | dotted
  | header
  deriving Repr, DecidableEq

/-- `tables` has its last table first. -/
inductive Node
  | leaf (v : Value)
  | table (origin : Origin) (fields : List (String × Node))
  | tables (rows : List (List (String × Node)))
  deriving Inhabited

abbrev Fields := List (String × Node)

namespace Fields

def replace (fields : Fields) (key : String) (n : Node) : Fields :=
  fields.map fun (k, old) => if k = key then (k, n) else (k, old)

/-- Applies a change to the table at a path. Missing tables are made; dotted keys may not lead
through a table that has a header, and must end at a table that dotted keys have made. -/
def change (dotted : Bool) (f : Fields → Option Fields) : List String → Fields → Option Fields
  | [], fields => f fields
  | key :: path, fields =>
    match fields.lookup key with
    | none =>
      (change dotted f path []).map fun sub =>
        fields ++ [(key, .table (if dotted then .dotted else .implied) sub)]
    | some (.leaf _) => none
    | some (.table origin sub) =>
      if dotted ∧ (origin = .header ∨ path = [] ∧ origin = .implied) then none
      else (change dotted f path sub).map fun sub => replace fields key (.table origin sub)
    | some (.tables []) => none
    | some (.tables (last :: before)) =>
      if dotted ∧ path = [] then none
      else (change dotted f path last).map fun last => replace fields key (.tables (last :: before))

def addLeaf (key : String) (v : Value) (fields : Fields) : Option Fields :=
  match fields.lookup key with
  | none => some (fields ++ [(key, .leaf v)])
  | some _ => none

def addTable (key : String) (fields : Fields) : Option Fields :=
  match fields.lookup key with
  | none => some (fields ++ [(key, .table .header [])])
  | some (.table .implied sub) => some (replace fields key (.table .header sub))
  | some _ => none

def addRow (key : String) (fields : Fields) : Option Fields :=
  match fields.lookup key with
  | none => some (fields ++ [(key, .tables [[]])])
  | some (.tables rows) => some (replace fields key (.tables ([] :: rows)))
  | some _ => none

def splitLast (key : List String) : List String × String := (key.dropLast, key.getLast?.getD "")

def set (path key : List String) (v : Value) (fields : Fields) : Option Fields :=
  let (inner, last) := splitLast key
  change false (change true (addLeaf last v) inner) path fields

def openTable (path : List String) (fields : Fields) : Option Fields :=
  let (outer, last) := splitLast path
  change false (addTable last) outer fields

def openRow (path : List String) (fields : Fields) : Option Fields :=
  let (outer, last) := splitLast path
  change false (addRow last) outer fields

end Fields

mutual

def Node.toValue : Node → Value
  | .leaf v => v
  | .table _ fields => .table (fieldValues fields)
  | .tables rows => .list (rowValues rows).reverse

def fieldValues : List (String × Node) → List (String × Value)
  | [] => []
  | (key, n) :: rest => (key, n.toValue) :: fieldValues rest

def rowValues : List (List (String × Node)) → List Value
  | [] => []
  | fields :: rest => .table (fieldValues fields) :: rowValues rest

end

end EventBroker.Toml
