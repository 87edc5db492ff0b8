import EventBroker.Toml.Scan
import EventBroker.Toml.Tree

/-!
Reading a TOML document into a structured value. A document is a row of lines: a
header opens a table or adds one to a row of tables, and a key with a value sets a
field of the table opened last. Values nest to a bounded depth.
-/
namespace EventBroker.Toml

mutual

def value : Nat → Nat → Text → Option (Value × Text)
  | 0, _, _ => none
  | fuel + 1, depth, s =>
    match s with
    | '"' :: _ => (string? s).map fun (t, rest) => (.string t, rest)
    | '\'' :: _ => (string? s).map fun (t, rest) => (.string t, rest)
    | '[' :: rest =>
      match depth with
      | 0 => none
      | depth + 1 => items fuel depth [] rest
    | '\x7b' :: rest =>
      match depth with
      | 0 => none
      | depth + 1 =>
        match skipBlanks rest with
        | '\x7d' :: rest => some (.table [], rest)
        | rest => fields fuel depth [] rest
    | _ => plain? s

def items : Nat → Nat → List Value → Text → Option (Value × Text)
  | 0, _, _, _ => none
  | fuel + 1, depth, done, s =>
    match skipAll s with
    | none => none
    | some (']' :: rest) => some (.list done.reverse, rest)
    | some s =>
      match value fuel depth s with
      | none => none
      | some (v, rest) =>
        match skipAll rest with
        | some (']' :: rest) => some (.list (v :: done).reverse, rest)
        | some (',' :: rest) => items fuel depth (v :: done) rest
        | _ => none

def fields : Nat → Nat → Fields → Text → Option (Value × Text)
  | 0, _, _, _ => none
  | fuel + 1, depth, done, s =>
    match key? s with
    | some (key, '=' :: rest) =>
      match value fuel depth (skipBlanks rest) with
      | none => none
      | some (v, rest) =>
        match done.set [] key v with
        | none => none
        | some done =>
          match skipBlanks rest with
          | '\x7d' :: rest => some (.table (fieldValues done), rest)
          | ',' :: rest => fields fuel depth done rest
          | _ => none
    | _ => none

end

def value? (s : Text) : Option (Value × Text) := value (2 * s.length + 2) (depthLimit - 1) s

/-- The tables read so far and the path of the one opened last. -/
structure Document where
  fields : Fields := []
  path : List String := []

def Document.line? (d : Document) (s : Text) : Option (Document × Text) :=
  match s with
  | '[' :: '[' :: rest =>
    match key? rest with
    | some (path, ']' :: ']' :: rest) => do
      return ({ fields := ← d.fields.openRow path, path }, ← closeLine? rest)
    | _ => none
  | '[' :: rest =>
    match key? rest with
    | some (path, ']' :: rest) => do
      return ({ fields := ← d.fields.openTable path, path }, ← closeLine? rest)
    | _ => none
  | _ =>
    match key? s with
    | some (key, '=' :: rest) => do
      let (v, rest) ← value? (skipBlanks rest)
      return ({ d with fields := ← d.fields.set d.path key v }, ← closeLine? rest)
    | _ => none

def Document.lines : Nat → Document → Text → Option Document
  | 0, _, _ => none
  | fuel + 1, d, s =>
    match skipAll s with
    | none => none
    | some [] => some d
    | some s =>
      match d.line? s with
      | none => none
      | some (d, rest) => Document.lines fuel d rest

def dropMark : Text → Text
  | c :: rest => if c.toNat = 0xfeff then rest else c :: rest
  | [] => []

def parse (s : String) : Option Value :=
  let text := dropMark s.toList
  (Document.lines (text.length + 1) {} text).map fun d => .table (fieldValues d.fields)

end EventBroker.Toml
