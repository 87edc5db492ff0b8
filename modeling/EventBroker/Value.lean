import EventBroker.Text.Quoted
import EventBroker.Text.Shortest

/-!
Structured values as a configuration file holds them, and how typed settings are
read from them. A reader names what it wants; `Value.Fault` tells what stood there
instead.
-/
namespace EventBroker

inductive Value
  | null
  | boolean (b : Bool)
  | integer (n : Int)
  | float (x : Double)
  | string (s : String)
  | list (items : List Value)
  | table (fields : List (String × Value))
  deriving Inhabited

namespace Value

inductive Wanted
  | text
  | boolean
  | word64
  | size
  | word32
  | double
  | table
  | record (name : String)
  deriving Repr, DecidableEq

def Wanted.message : Wanted → String
  | .text => "a string"
  | .boolean => "a boolean"
  | .word64 => "u64"
  | .size => "usize"
  | .word32 => "u32"
  | .double => "f64"
  | .table => "a map"
  | .record name => "struct " ++ name

inductive Fault
  | kind (got : Value) (wanted : Wanted)
  | range (n : Int) (wanted : Wanted)
  | length (n : Nat)

def describe : Value → String
  | .null => "null"
  | .boolean b => "boolean `" ++ (if b then "true" else "false") ++ "`"
  | .integer n => "integer `" ++ toString n ++ "`"
  | .float x => "floating point `" ++ Shortest.text x ++ "`"
  | .string s => "string " ++ Quoted.encode s
  | .list _ => "sequence"
  | .table _ => "map"

def Fault.message : Fault → String
  | .kind got wanted => "invalid type: " ++ got.describe ++ ", expected " ++ wanted.message
  | .range n wanted => "invalid value: integer `" ++ toString n ++ "`, expected " ++ wanted.message
  | .length n => "invalid length " ++ toString n ++ ", expected fewer elements in array"

def toText : Value → Except Fault String
  | .string s => .ok s
  | v => .error (.kind v .text)

def toBool : Value → Except Fault Bool
  | .boolean b => .ok b
  | v => .error (.kind v .boolean)

def toNatural (wanted : Wanted) (limit : Nat) : Value → Except Fault Nat
  | .integer n => if 0 ≤ n ∧ n < limit then .ok n.toNat else .error (.range n wanted)
  | v => .error (.kind v wanted)

def toDouble : Value → Except Fault Double
  | .float x => .ok x
  | .integer n => .ok (.ofFloat (Float.ofInt n))
  | v => .error (.kind v .double)

def toOptional {α : Type} (read : Value → Except Fault α) : Value → Except Fault (Option α)
  | .null => .ok none
  | v => (read v).map some

def sortFields {α : Type} (fields : List (String × α)) : List (String × α) :=
  fields.mergeSort fun a b => decide (a.1 ≤ b.1)

def toTexts : Value → Except Fault (List (String × String))
  | .table fields => (sortFields fields).mapM fun (key, v) => v.toText.map (key, ·)
  | v => .error (.kind v .table)

/-- What becomes of items of a list that no field of a record is left for. -/
inductive Surplus
  | refused
  | ignored
  deriving Repr, DecidableEq

/-- Reads a record from a table, field by field in the order of the keys, or from a list
of its fields in the order of `order`. What is not given keeps its value. -/
def toRecord {α : Type} (surplus : Surplus) (name : String) (order : List String)
    (set : α → String → Value → Except Fault α) (start : α) : Value → Except Fault α
  | .table fields => (sortFields fields).foldlM (fun record (key, v) => set record key v) start
  | .list items => do
    let record ← (order.zip items).foldlM (fun record (key, v) => set record key v) start
    if surplus = .refused ∧ order.length < items.length then throw (.length items.length)
    return record
  | v => .error (.kind v (.record name))

end Value

end EventBroker
