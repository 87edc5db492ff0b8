import EventBroker.Frame

/-!
Incremental reading of frames. A decoder takes line after line off the front of a buffer.
A line ends at a line feed, a carriage return, or a pair of both: whether a carriage return
begins a pair is seen from the next byte in the buffer, or the question is kept for the
next call if there is none yet. A blank line closes the frame. Each call ends with a check
that the unfinished line and frame stay within the size limit.
-/
namespace EventBroker.Frame

open Bytes

def joinLines (newestFirst : List Bytes) : Bytes := [lineFeed].intercalate newestFirst.reverse

def joinedSize : List Bytes → Nat
  | [] => 0
  | [line] => line.length
  | line :: rest => joinedSize rest + 1 + line.length

/-- The frame under way. Comment and data are kept as their lines, newest first; `touched`
tells whether any line of the frame has been read. -/
structure Pending where
  id : Option Bytes := none
  name : Bytes := []
  data : List Bytes := []
  comment : List Bytes := []
  retry : Option Duration := none
  touched : Bool := false
  deriving Repr, DecidableEq

namespace Pending

def size (p : Pending) : Nat := joinedSize p.data + joinedSize p.comment + p.name.length

/-- Blank comments ahead of all others are left out. -/
def addComment (p : Pending) (value : Bytes) : Pending :=
  if p.comment.isEmpty && value.isEmpty then p else { p with comment := value :: p.comment }

def addData (p : Pending) (value : Bytes) : Pending := { p with data := value :: p.data }

/-- An id with a zero byte is ignored. -/
def setId (p : Pending) (value : Bytes) : Pending :=
  if value.contains 0 then p else { p with id := some value }

/-- A delay is a row of digits; one that does not fit in 64 bits clears the delay,
anything else is ignored. -/
def setRetry (p : Pending) (value : Bytes) : Pending :=
  match Decimal.natural value with
  | none => p
  | some n => { p with retry := (Decimal.belowWordLimit n).map Duration.ofMillis }

def apply (p : Pending) (name value : Bytes) : Pending :=
  if name = [] then p.addComment value
  else if name = idField then p.setId value
  else if name = nameField then { p with name := value }
  else if name = dataField then p.addData value
  else if name = retryField then p.setRetry value
  else p

end Pending

/-- The name and the value of a line: what stands before its first colon, and what
follows it less one leading space. -/
def splitField (line : Bytes) : Bytes × Bytes :=
  match cutAt (· == colon) line with
  | (name, none) => (name, [])
  | (name, some value) => (name, if value.head? = some space then value.tail else value)

def Pending.addLine (p : Pending) (line : Bytes) : Pending :=
  let (name, value) := splitField line
  { p with touched := true }.apply name value

inductive Fault
  | base64 (cause : Base64.Fault)
  | oversized (limit : Nat)
  deriving Repr, DecidableEq

def Fault.message : Fault → String
  | .base64 cause => "invalid base64 data: " ++ cause.message
  | .oversized limit => s!"frame exceeds max buffer size of {limit} bytes"

/-- What a blank line makes of the frame before it: nothing if it had no line. -/
def Pending.close (base64 : Bool) (p : Pending) : Option (Except Fault Event) :=
  if !p.touched then none
  else
    let text := joinLines p.data
    let event (data : Bytes) : Event :=
      { id := p.id.getD [], name := p.name, data, comment := joinLines p.comment, retry := p.retry }
    if base64 && !text.isEmpty then
      match Base64.decode text with
      | .error cause => some (.error (.base64 cause))
      | .ok data => some (.ok (event data))
    else some (.ok (event text))

/-- The state of a decoder. `buffer` holds what is not read yet: the unfinished line, or all
that follows a frame that was refused. `skipLineFeed` says that the last line ended on the last
byte there was, a carriage return, so that a line feed would belong to it. -/
structure Decoder where
  limit : Nat
  base64 : Bool
  buffer : Bytes := []
  pending : Pending := {}
  skipLineFeed : Bool := false
  deriving Repr, DecidableEq

namespace Decoder

def new (limit : Nat) (base64 : Bool) : Decoder := { limit, base64 }

def skip (d : Decoder) : Decoder :=
  match d.skipLineFeed, d.buffer with
  | true, b :: rest =>
    { d with buffer := if b = lineFeed then rest else b :: rest, skipLineFeed := false }
  | _, _ => d

def takeLine? (d : Decoder) : Option (Bytes × Decoder) :=
  match d.buffer.dropWhile (!isTerminator ·) with
  | [] => none
  | b :: rest =>
    some (d.buffer.takeWhile (!isTerminator ·),
      match b == carriageReturn, rest with
      | true, [] => { d with buffer := [], skipLineFeed := true }
      | true, c :: after => { d with buffer := if c = lineFeed then after else c :: after }
      | false, _ => { d with buffer := rest })

def readLine (d : Decoder) (line : Bytes) : Decoder × Option (Except Fault Event) :=
  if line.isEmpty then ({ d with pending := {} }, d.pending.close d.base64)
  else ({ d with pending := d.pending.addLine line }, none)

theorem length_skip_le (d : Decoder) : d.skip.buffer.length ≤ d.buffer.length := by
  unfold skip
  split
  · next b rest _ hbuffer =>
    rw [hbuffer]
    dsimp only
    split
    · exact Nat.le_succ _
    · exact Nat.le_refl _
  · exact Nat.le_refl _

theorem length_lt_of_takeLine? (d rest : Decoder) (line : Bytes)
    (h : d.takeLine? = some (line, rest)) : rest.buffer.length < d.buffer.length := by
  unfold takeLine? at h
  split at h
  · cases h
  · next b after hdrop =>
    have hlength := (List.dropWhile_sublist (l := d.buffer) (!isTerminator ·)).length_le
    rw [hdrop, List.length_cons] at hlength
    cases h
    split
    · exact Nat.lt_of_lt_of_le (Nat.zero_lt_succ _) hlength
    · dsimp only
      split <;> simp only [List.length_cons] at hlength ⊢ <;> omega
    · exact hlength

theorem readLine_buffer (d : Decoder) (line : Bytes) :
    (d.readLine line).1.buffer = d.buffer := by
  unfold readLine
  split <;> rfl

/-- Reads lines until none in the buffer is ended or a frame is refused. The events completed
on the way come newest first. -/
def drain (d : Decoder) (done : List Event) : Decoder × Except Fault (List Event) :=
  match _hline : d.skip.takeLine? with
  | none => (d.skip, .ok done)
  | some (line, rest) =>
    let r := rest.readLine line
    match r.2 with
    | none => drain r.1 done
    | some (.ok e) => drain r.1 (e :: done)
    | some (.error fault) => (r.1, .error fault)
termination_by d.buffer.length
decreasing_by
  all_goals
    rw [readLine_buffer]
    exact Nat.lt_of_lt_of_le (length_lt_of_takeLine? _ _ _ _hline) (length_skip_le d)

def retained (d : Decoder) : Nat := d.buffer.length + d.pending.size

/-- Feeds a chunk and gives the events of the frames that it completes. A refused frame
takes the events completed before it in the same call with it. -/
def decode (d : Decoder) (chunk : Bytes) : Decoder × Except Fault (List Event) :=
  match { d with buffer := d.buffer ++ chunk }.drain [] with
  | (d', .error fault) => (d', .error fault)
  | (d', .ok done) =>
    if d'.retained > d'.limit then (d', .error (.oversized d'.limit)) else (d', .ok done.reverse)

end Decoder

end EventBroker.Frame
