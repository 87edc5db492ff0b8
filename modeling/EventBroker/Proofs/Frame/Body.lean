import EventBroker.Proofs.Frame.RoundTrip

/-!
The body of a response: frames of events, and keep-alives between them. A keep-alive is
read as an event without any field, so a reader that looks only at events with data reads
the events of the body.
-/
namespace EventBroker.Frame

def spell (base64 : Bool) : Option Event → Bytes
  | some e => encode base64 e
  | none => keepAlive

def heard (base64 : Bool) : Option Event → Event
  | some e => received base64 e
  | none => {}

namespace Decoder

variable (limit : Nat) (base64 : Bool)

theorem scan_keepAlive (rest : Bytes) :
    (new limit base64).scan (keepAlive ++ rest) = prepend [{}] ((new limit base64).scan rest) := by
  have hline : IsLine [Bytes.colon] := by
    intro b hb
    rw [List.mem_singleton.mp hb]
    rfl
  have hclose : (({} : Pending).addLine [Bytes.colon]).close base64 = some (.ok {}) := by
    cases base64 <;> rfl
  have hbody : keepAlive ++ rest =
      [Bytes.colon] ++ Bytes.lineFeed :: Bytes.lineFeed :: rest := rfl
  rw [hbody]
  change (reading limit base64 {}).scan _ = _
  rw [scan_line limit base64 {} _ _ (by simp) hline]
  exact scan_blank limit base64 _ rest (some {}) hclose

/-- A body is read item by item. -/
theorem scan_flatMap_spell (said : List (Option Event))
    (hfield : ∀ e, some e ∈ said → hasField e = true) (rest : Bytes) :
    (new limit base64).scan (said.flatMap (spell base64) ++ rest) =
      prepend (said.map (heard base64)) ((new limit base64).scan rest) := by
  induction said with
  | nil =>
    rw [List.flatMap_nil, List.nil_append, List.map_nil, prepend_nil]
  | cons item said ih =>
    have hrest := ih fun e he => hfield e (List.mem_cons_of_mem item he)
    rw [List.flatMap_cons, List.append_assoc, List.map_cons]
    cases item with
    | none =>
      rw [spell, scan_keepAlive, hrest, prepend_prepend]
      rfl
    | some e =>
      rw [spell, scan_encode, if_pos (hfield e List.mem_cons_self), hrest, prepend_prepend]
      rfl

end Decoder

/-- Reading keeps data where there is some. -/
theorem received_hasData (base64 : Bool) (e : Event) :
    (received base64 e).hasData = e.hasData := by
  unfold Event.hasData received readData
  cases base64 with
  | true => rfl
  | false =>
    have hempty := unifyBreaks_eq_nil_iff e.data
    cases hdata : e.data with
    | nil => rfl
    | cons b data =>
      rw [hdata] at hempty
      have hne : unifyBreaks (b :: data) ≠ [] := fun h => nomatch hempty.mp h
      rw [if_neg Bool.false_ne_true, List.isEmpty_eq_false_iff.mpr hne]
      rfl

end EventBroker.Frame
