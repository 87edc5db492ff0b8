import EventBroker.Proofs.Frame.Scan

/-!
Reading a written field. A field written for a name and a value without line breaks is read
as that name and that value, whatever else the value holds, so the fields of a frame reach
the frame under way one by one, and the blank line closes it.
-/
namespace EventBroker.Frame

open Bytes

def IsFieldName (name : Bytes) : Prop := IsLine name ∧ colon ∉ name

theorem isFieldName_nil : IsFieldName [] := ⟨isLine_nil, List.not_mem_nil⟩

/-- The names of the fields are checked byte by byte. -/
theorem isFieldName_of_all (name : Bytes)
    (h : (name.all fun b => !isTerminator b && b != colon) = true) : IsFieldName name := by
  rw [List.all_eq_true] at h
  constructor
  · intro b hb
    have hbyte := h b hb
    rw [Bool.and_eq_true, Bool.not_eq_true'] at hbyte
    exact hbyte.1
  · intro hcolon
    have hbyte := h colon hcolon
    rw [Bool.and_eq_true, bne_iff_ne] at hbyte
    exact hbyte.2 rfl

theorem isFieldName_idField : IsFieldName idField := isFieldName_of_all idField rfl

theorem isFieldName_nameField : IsFieldName nameField := isFieldName_of_all nameField rfl

theorem isFieldName_dataField : IsFieldName dataField := isFieldName_of_all dataField rfl

theorem isFieldName_retryField : IsFieldName retryField := isFieldName_of_all retryField rfl

theorem cutAt_colon (name value : Bytes) (hname : colon ∉ name) :
    cutAt (· == colon) (name ++ colon :: value) = (name, some value) := by
  have hkeep : ∀ b ∈ name, (!(b == colon)) = true := by
    intro b hb
    have hne : b ≠ colon := fun h => hname (h ▸ hb)
    simp [hne]
  unfold cutAt
  rw [List.dropWhile_append_of_pos hkeep, List.takeWhile_append_of_pos hkeep]
  simp

theorem splitField_field (name value : Bytes) (hname : colon ∉ name) :
    splitField (name ++ colon :: space :: value) = (name, value) := by
  unfold splitField
  rw [cutAt_colon name _ hname]
  simp

namespace Pending

def put (p : Pending) (name value : Bytes) : Pending := { p with touched := true }.apply name value

theorem addLine_field (p : Pending) (name value : Bytes) (hname : colon ∉ name) :
    p.addLine (name ++ colon :: space :: value) = p.put name value := by
  unfold addLine put
  rw [splitField_field name value hname]

theorem put_comment (p : Pending) (value : Bytes) :
    p.put [] value = { p with touched := true }.addComment value := rfl

theorem put_id (p : Pending) (value : Bytes) :
    p.put idField value = { p with touched := true }.setId value := rfl

theorem put_name (p : Pending) (value : Bytes) :
    p.put nameField value = { p with touched := true, name := value } := rfl

theorem put_data (p : Pending) (value : Bytes) :
    p.put dataField value = { p with touched := true, data := value :: p.data } := rfl

theorem put_retry (p : Pending) (value : Bytes) :
    p.put retryField value = { p with touched := true }.setRetry value := rfl

end Pending

namespace Decoder

def reading (limit : Nat) (base64 : Bool) (p : Pending) : Decoder := { limit, base64, pending := p }

variable (limit : Nat) (base64 : Bool) (p : Pending)

theorem scan_line (l rest : Bytes) (hne : l ≠ []) (hl : IsLine l) :
    (reading limit base64 p).scan (l ++ lineFeed :: rest) =
      (reading limit base64 (p.addLine l)).scan rest := by
  have hstep : { reading limit base64 p with buffer := l }.step lineFeed =
      (reading limit base64 (p.addLine l), none) := by
    simp [reading, step, readLine, isTerminator, hne, lineFeed, carriageReturn]
  have hbuffer : { reading limit base64 p with buffer := (reading limit base64 p).buffer ++ l } =
      { reading limit base64 p with buffer := l } := rfl
  rw [scan_isLine _ l _ hl rfl, hbuffer, scan_cons _ _ lineFeed rest none hstep,
    Option.toList_none, prepend_nil]

/-- A written field is read as its name and its value. -/
theorem scan_field (name value rest : Bytes) (hname : IsFieldName name) (hvalue : IsLine value) :
    (reading limit base64 p).scan (field name value ++ rest) =
      (reading limit base64 (p.put name value)).scan rest := by
  have hline : IsLine (name ++ colon :: space :: value) := by
    apply isLine_append _ _ hname.1
    intro b hb
    rcases List.mem_cons.mp hb with rfl | hb
    · rfl
    · rcases List.mem_cons.mp hb with rfl | hb
      · rfl
      · exact hvalue b hb
  have hfield : field name value ++ rest =
      (name ++ colon :: space :: value) ++ lineFeed :: rest := by
    simp [field]
  rw [hfield, scan_line limit base64 p _ rest (by simp) hline,
    Pending.addLine_field p name value hname.2]

theorem scan_fieldLines (name rest : Bytes) (values : List Bytes) (hname : IsFieldName name)
    (hvalues : ∀ v ∈ values, IsLine v) :
    (reading limit base64 p).scan (fieldLines name values ++ rest) =
      (reading limit base64 (values.foldl (·.put name) p)).scan rest := by
  induction values generalizing p with
  | nil => rfl
  | cons v values ih =>
    have hv := hvalues v List.mem_cons_self
    have hrest : ∀ w ∈ values, IsLine w := fun w hw => hvalues w (List.mem_cons_of_mem v hw)
    have hcons : fieldLines name (v :: values) ++ rest =
        field name v ++ (fieldLines name values ++ rest) := by
      simp [fieldLines]
    rw [hcons, scan_field limit base64 p name v _ hname hv, ih (p.put name v) hrest]
    rfl

/-- The blank line after a frame closes it. -/
theorem scan_blank (rest : Bytes) (found : Option Event)
    (hclose : p.close base64 = found.map .ok) :
    (reading limit base64 p).scan (lineFeed :: rest) =
      prepend found.toList ((new limit base64).scan rest) := by
  apply scan_cons
  rw [← hclose]
  rfl

end Decoder

end EventBroker.Frame
