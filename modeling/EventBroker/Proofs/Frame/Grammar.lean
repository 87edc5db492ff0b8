import EventBroker.Proofs.Frame.Fields
import Mathlib.Data.List.Induction
import Mathlib.Data.List.TakeWhile

/-!
The grammar of the wire form. A text is cut into lines at its line breaks, the lines into
frames at the blank ones, and each line into a name and a value; an event is read off the
lines of a frame, field by field. The frame under way, which takes one line after another,
comes to the same fields.
-/
namespace EventBroker.Frame

open Bytes

/-- The lines of a text, the unended one at last. -/
def cutLines (s : Bytes) : List Bytes := (unifyBreaks s).splitOn lineFeed

/-- The lines of each frame, those of the unclosed one at last. -/
def cutFrames (ls : List Bytes) : List (List Bytes) := ls.splitOn []

def lineName (line : Bytes) : Bytes := line.takeWhile (· != colon)

def lineValue (line : Bytes) : Bytes :=
  let rest := (line.dropWhile (· != colon)).tail
  if rest.head? = some space then rest.tail else rest

def valuesOf (name : Bytes) (frame : List Bytes) : List Bytes :=
  (frame.filter (lineName · == name)).map lineValue

def frameId? (frame : List Bytes) : Option Bytes :=
  ((valuesOf idField frame).filter (0 ∉ ·)).getLast?

def frameName (frame : List Bytes) : Bytes := (valuesOf nameField frame).getLast?.getD []

def frameData (frame : List Bytes) : Bytes := [lineFeed].intercalate (valuesOf dataField frame)

def frameComments (frame : List Bytes) : List Bytes := (valuesOf [] frame).dropWhile (·.isEmpty)

def frameComment (frame : List Bytes) : Bytes := [lineFeed].intercalate (frameComments frame)

def isNumeral (value : Bytes) : Bool := !value.isEmpty && value.all isDigit

def delay? (millis : Nat) : Option Duration :=
  if millis < Decimal.wordLimit then some (.ofMillis millis) else none

/-- The last value that is a numeral counts, even if it is too large. -/
def frameRetry (frame : List Bytes) : Option Duration :=
  ((valuesOf retryField frame).filter isNumeral).getLast?.bind fun value =>
    delay? (Decimal.ofDigits value)

def frameEvent (frame : List Bytes) : Event :=
  { id := (frameId? frame).getD [], name := frameName frame, data := frameData frame,
    comment := frameComment frame, retry := frameRetry frame }

/-- The closed frames of a text; blank lines in a row have no frame between them. -/
def closedFrames (s : Bytes) : List (List Bytes) :=
  (cutFrames (cutLines s).dropLast).dropLast.filter (!·.isEmpty)

def eventsOf (s : Bytes) : List Event := (closedFrames s).map frameEvent

def openLine (s : Bytes) : Bytes := (cutLines s).getLast?.getD []

def openFrame (s : Bytes) : List Bytes := (cutFrames (cutLines s).dropLast).getLast?.getD []

def openSize (s : Bytes) : Nat :=
  (openLine s).length + (frameData (openFrame s)).length + (frameComment (openFrame s)).length
    + (frameName (openFrame s)).length

theorem splitField_eq (line : Bytes) : splitField line = (lineName line, lineValue line) := by
  unfold splitField cutAt lineName lineValue
  cases hdrop : line.dropWhile (fun b => !(b == colon)) with
  | nil =>
    have hall : ∀ b ∈ line, (!(b == colon)) = true := List.dropWhile_eq_nil_iff.mp hdrop
    have htake : line.takeWhile (· != colon) = line := List.takeWhile_eq_self_iff.mpr hall
    have hrest : line.dropWhile (· != colon) = [] := hdrop
    simp [htake, hrest]
  | cons b rest =>
    have hrest : line.dropWhile (· != colon) = b :: rest := hdrop
    simp only [hrest, List.tail_cons]
    rfl

theorem valuesOf_concat (name : Bytes) (frame : List Bytes) (line : Bytes) :
    valuesOf name (frame ++ [line]) =
      valuesOf name frame ++ if lineName line = name then [lineValue line] else [] := by
  unfold valuesOf
  rw [List.filter_append, List.map_append]
  by_cases hname : lineName line = name
  · simp [hname]
  · simp [hname]

theorem valuesOf_concat_self (name : Bytes) (frame : List Bytes) (line : Bytes)
    (hname : lineName line = name) :
    valuesOf name (frame ++ [line]) = valuesOf name frame ++ [lineValue line] := by
  rw [valuesOf_concat, if_pos hname]

theorem valuesOf_concat_other (name : Bytes) (frame : List Bytes) (line : Bytes)
    (hname : lineName line ≠ name) :
    valuesOf name (frame ++ [line]) = valuesOf name frame := by
  rw [valuesOf_concat, if_neg hname, List.append_nil]

namespace Pending

def ofLines (frame : List Bytes) : Pending := frame.foldl addLine {}

theorem ofLines_concat (frame : List Bytes) (line : Bytes) :
    ofLines (frame ++ [line]) = (ofLines frame).addLine line := by
  unfold ofLines
  rw [List.foldl_append]
  rfl

theorem addLine_eq (p : Pending) (line : Bytes) :
    p.addLine line = p.put (lineName line) (lineValue line) := by
  unfold addLine put
  rw [splitField_eq]

theorem put_unknown (p : Pending) (name value : Bytes)
    (hname : name ∉ [[], idField, nameField, dataField, retryField]) :
    p.put name value = { p with touched := true } := by
  simp only [List.mem_cons, List.not_mem_nil, or_false, not_or] at hname
  obtain ⟨hcomment, hid, hevent, hdata, hretry⟩ := hname
  simp only [put, apply, hcomment, hid, hevent, hdata, hretry, if_false]

end Pending

theorem frameId?_concat (frame : List Bytes) (line : Bytes) :
    frameId? (frame ++ [line]) =
      if lineName line = idField ∧ 0 ∉ lineValue line then some (lineValue line)
      else frameId? frame := by
  unfold frameId?
  rw [valuesOf_concat, List.filter_append]
  by_cases hname : lineName line = idField
  · by_cases hzero : 0 ∉ lineValue line
    · rw [if_pos hname, if_pos ⟨hname, hzero⟩, List.filter_cons_of_pos (by simpa using hzero),
        List.filter_nil, List.getLast?_concat]
    · rw [if_pos hname, if_neg fun h => hzero h.2,
        List.filter_cons_of_neg (by simpa using hzero), List.filter_nil, List.append_nil]
  · rw [if_neg hname, if_neg fun h => hname h.1, List.filter_nil, List.append_nil]

theorem frameName_concat (frame : List Bytes) (line : Bytes) :
    frameName (frame ++ [line]) =
      if lineName line = nameField then lineValue line else frameName frame := by
  unfold frameName
  by_cases hname : lineName line = nameField
  · rw [valuesOf_concat_self _ _ _ hname, if_pos hname, List.getLast?_concat]
    rfl
  · rw [valuesOf_concat_other _ _ _ hname, if_neg hname]

theorem frameComments_concat (frame : List Bytes) (line : Bytes) :
    frameComments (frame ++ [line]) =
      if lineName line = [] ∧ ¬(frameComments frame = [] ∧ lineValue line = []) then
        frameComments frame ++ [lineValue line]
      else frameComments frame := by
  unfold frameComments
  by_cases hname : lineName line = []
  · rw [valuesOf_concat_self _ _ _ hname, List.dropWhile_append]
    by_cases hnone : (valuesOf [] frame).dropWhile (·.isEmpty) = []
    · by_cases hvalue : lineValue line = []
      · simp [hname, hnone, hvalue]
      · simp [hname, hnone, hvalue]
    · simp [hname, hnone]
  · rw [valuesOf_concat_other _ _ _ hname, if_neg fun h => hname h.1]

theorem frameRetry_concat (frame : List Bytes) (line : Bytes) :
    frameRetry (frame ++ [line]) =
      if lineName line = retryField ∧ isNumeral (lineValue line) = true then
        delay? (Decimal.ofDigits (lineValue line))
      else frameRetry frame := by
  unfold frameRetry
  rw [valuesOf_concat, List.filter_append]
  by_cases hname : lineName line = retryField
  · by_cases hnumeral : isNumeral (lineValue line) = true
    · rw [if_pos hname, if_pos ⟨hname, hnumeral⟩, List.filter_cons_of_pos hnumeral,
        List.filter_nil, List.getLast?_concat]
      rfl
    · rw [if_pos hname, if_neg fun h => hnumeral h.2, List.filter_cons_of_neg hnumeral,
        List.filter_nil, List.append_nil]
  · rw [if_neg hname, if_neg fun h => hname h.1, List.filter_nil, List.append_nil]

namespace Pending

theorem setRetry_eq (p : Pending) (value : Bytes) :
    p.setRetry value =
      if isNumeral value = true then { p with retry := delay? (Decimal.ofDigits value) } else p := by
  have hnatural : Decimal.natural value =
      if isNumeral value = true then some (Decimal.ofDigits value) else none := by
    unfold Decimal.natural isNumeral
    cases value <;> simp
  have hdelay : ∀ n, (Decimal.belowWordLimit n).map Duration.ofMillis = delay? n := by
    intro n
    unfold Decimal.belowWordLimit delay?
    split <;> rfl
  unfold setRetry
  rw [hnatural]
  cases isNumeral value with
  | false => rfl
  | true => simp [hdelay]

def ofFields (frame : List Bytes) : Pending :=
  { id := frameId? frame, name := frameName frame, data := (valuesOf dataField frame).reverse,
    comment := (frameComments frame).reverse, retry := frameRetry frame,
    touched := !frame.isEmpty }

/-- Of the fields of a frame, one more line changes the one that it names. -/
theorem put_ofFields (frame : List Bytes) (line : Bytes) :
    (ofFields frame).put (lineName line) (lineValue line) = ofFields (frame ++ [line]) := by
  unfold ofFields
  rw [frameId?_concat, frameName_concat, frameComments_concat, frameRetry_concat, valuesOf_concat]
  by_cases hcomment : lineName line = []
  · rw [hcomment, put_comment, addComment]
    by_cases hblank : frameComments frame = [] ∧ lineValue line = []
    · simp [hblank, idField, nameField, dataField, retryField]
    · simp [hblank, idField, nameField, dataField, retryField]
  by_cases hid : lineName line = idField
  · rw [hid, put_id, setId]
    by_cases hzero : 0 ∈ lineValue line
    · simp [hzero, idField, nameField, dataField, retryField]
    · simp [hzero, idField, nameField, dataField, retryField]
  by_cases hname : lineName line = nameField
  · rw [hname, put_name]
    simp [idField, nameField, dataField, retryField]
  by_cases hdata : lineName line = dataField
  · rw [hdata, put_data]
    simp [idField, nameField, dataField, retryField]
  by_cases hretry : lineName line = retryField
  · rw [hretry, put_retry, setRetry_eq]
    by_cases hnumeral : isNumeral (lineValue line) = true
    · simp [hnumeral, idField, nameField, dataField, retryField]
    · simp [hnumeral, idField, nameField, dataField, retryField]
  · rw [put_unknown _ _ _ (by simp [hcomment, hid, hname, hdata, hretry])]
    simp [hcomment, hid, hname, hdata, hretry]

theorem ofLines_eq (frame : List Bytes) : ofLines frame = ofFields frame := by
  induction frame using List.reverseRecOn with
  | nil => rfl
  | append_singleton frame line ih => rw [ofLines_concat, ih, addLine_eq, put_ofFields]

/-- Closing a frame gives its event, if it has any line. -/
theorem close_ofLines (frame : List Bytes) :
    (ofLines frame).close false =
      (if frame.isEmpty then none else some (frameEvent frame)).map .ok := by
  rw [ofLines_eq]
  unfold close ofFields joinLines
  cases frame with
  | nil => rfl
  | cons line rest =>
    simp only [List.reverse_reverse, List.isEmpty_cons, Bool.not_false, Bool.not_true,
      Bool.false_and, Bool.false_eq_true, if_false]
    rfl

theorem length_intercalate_concat (ls : List Bytes) (line : Bytes) (hls : ls ≠ []) :
    ([lineFeed].intercalate (ls ++ [line])).length =
      ([lineFeed].intercalate ls).length + 1 + line.length := by
  induction ls with
  | nil => exact absurd rfl hls
  | cons l ls ih =>
    cases ls with
    | nil =>
      simp only [List.singleton_append, List.intercalate_cons_cons, List.intercalate_singleton,
        List.length_append, List.length_singleton]
    | cons next ls =>
      have hnext := ih (List.cons_ne_nil _ _)
      rw [List.cons_append, List.intercalate_cons_of_ne_nil (by simp), List.length_append, hnext,
        List.intercalate_cons_cons, List.length_append]
      simp only [List.length_append]
      omega

theorem joinedSize_eq (ls : List Bytes) : joinedSize ls = (joinLines ls).length := by
  unfold joinLines
  fun_induction joinedSize ls with
  | case1 => rfl
  | case2 line => rw [List.reverse_singleton, List.intercalate_singleton]
  | case3 line rest hrest ih =>
    rw [List.reverse_cons, length_intercalate_concat _ _ (by simpa using hrest), ih]

theorem size_ofLines (frame : List Bytes) :
    (ofLines frame).size =
      (frameData frame).length + (frameComment frame).length + (frameName frame).length := by
  rw [ofLines_eq]
  unfold size ofFields
  simp only [joinedSize_eq, joinLines, List.reverse_reverse]
  rfl

end Pending

end EventBroker.Frame
