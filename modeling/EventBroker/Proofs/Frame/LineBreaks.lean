import EventBroker.Frame.Decoder

/-!
Line breaks in a field. The lines of a text hold no break themselves, and joining them
again gives the text with one line feed for each line feed, carriage return or pair of
both. Comments lose the line feeds they begin with, because a blank line ahead of all
others leaves no trace in them.
-/
namespace EventBroker.Frame

open Bytes

/-- The text with one line feed for each of its line breaks. -/
def unifyBreaks : Bytes → Bytes
  | [] => []
  | 13 :: 10 :: rest => lineFeed :: unifyBreaks rest
  | b :: rest => (if b = carriageReturn then lineFeed else b) :: unifyBreaks rest

theorem isTerminator_eq_false_iff (b : UInt8) :
    isTerminator b = false ↔ b ≠ lineFeed ∧ b ≠ carriageReturn := by
  simp only [isTerminator, Bool.or_eq_false_iff, beq_eq_false_iff_ne]

def IsLine (s : Bytes) : Prop := ∀ b ∈ s, isTerminator b = false

theorem isLine_nil : IsLine [] := by
  intro b hb
  cases hb

theorem IsLine.ne_lineFeed (s : Bytes) (hs : IsLine s) (b : UInt8) (hb : b ∈ s) : b ≠ lineFeed := by
  rintro rfl
  have h := hs lineFeed hb
  contradiction

theorem isLine_append (s t : Bytes) (hs : IsLine s) (ht : IsLine t) : IsLine (s ++ t) := by
  intro b hb
  rcases List.mem_append.mp hb with h | h
  · exact hs b h
  · exact ht b h

theorem isLine_singleLine (s : Bytes) : IsLine (singleLine s) := by
  intro b hb
  have h := (List.mem_filter.mp hb).2
  simpa using h

theorem singleLine_of_isLine (s : Bytes) (hs : IsLine s) : singleLine s = s := by
  apply List.filter_eq_self.mpr
  intro b hb
  simp [hs b hb]

theorem singleLine_eq_filter (s : Bytes) : singleLine s = s.filter fun b => b ≠ 10 ∧ b ≠ 13 := by
  refine List.filter_congr fun b _ => ?_
  rw [Bool.eq_iff_iff, Bool.not_eq_true', isTerminator_eq_false_iff, decide_eq_true_iff]
  rfl

def Lines.text (s : Lines) : Bytes := [lineFeed].intercalate (s.first :: s.later)

theorem Lines.text_break (first : Bytes) (later : List Bytes) (flag : Bool) :
    Lines.text ⟨[], first :: later, flag⟩ = lineFeed :: Lines.text ⟨first, later, flag⟩ := by
  unfold Lines.text
  rw [List.intercalate_cons_cons]
  rfl

theorem Lines.text_byte (b : UInt8) (first : Bytes) (later : List Bytes) (flag : Bool) :
    Lines.text ⟨b :: first, later, flag⟩ = b :: Lines.text ⟨first, later, flag⟩ := by
  unfold Lines.text
  cases later with
  | nil => simp [List.intercalate]
  | cons t rest =>
    simp only [List.intercalate_cons_cons, List.cons_append]

theorem Lines.ofBytes_cons (b : UInt8) (s : Bytes) :
    Lines.ofBytes (b :: s) = Lines.cons b (Lines.ofBytes s) := rfl

theorem Lines.atLineFeed_ofBytes (s : Bytes) :
    (Lines.ofBytes s).atLineFeed = (s.head? == some lineFeed) := by
  cases s with
  | nil => rfl
  | cons b s =>
    rw [Lines.ofBytes_cons, List.head?_cons]
    unfold Lines.cons
    by_cases hfeed : b = lineFeed
    · subst hfeed
      rfl
    · have hne : (b == lineFeed) = false := beq_eq_false_iff_ne.mpr hfeed
      have hsome : (some b == some lineFeed) = false := by simpa using hfeed
      rw [hne, hsome]
      simp only [Bool.false_eq_true, if_false]
      split
      · split <;> rfl
      · rfl

theorem unifyBreaks_lineFeed (s : Bytes) :
    unifyBreaks (lineFeed :: s) = lineFeed :: unifyBreaks s := by
  cases s <;> rfl

theorem unifyBreaks_pair (s : Bytes) :
    unifyBreaks (carriageReturn :: lineFeed :: s) = lineFeed :: unifyBreaks s := rfl

theorem unifyBreaks_return (s : Bytes) (hs : s.head? ≠ some lineFeed) :
    unifyBreaks (carriageReturn :: s) = lineFeed :: unifyBreaks s := by
  unfold carriageReturn
  rw [unifyBreaks]
  · rfl
  · rintro rest _ rfl
    exact hs rfl

theorem unifyBreaks_other (b : UInt8) (s : Bytes) (hb : isTerminator b = false) :
    unifyBreaks (b :: s) = b :: unifyBreaks s := by
  have hne : b ≠ carriageReturn := by
    rintro rfl
    contradiction
  rw [unifyBreaks]
  · rw [if_neg hne]
  · rintro rest rfl
    contradiction

theorem Lines.text_ofBytes (s : Bytes) : (Lines.ofBytes s).text = unifyBreaks s := by
  induction s with
  | nil => rfl
  | cons b s ih =>
    have hflag := Lines.atLineFeed_ofBytes s
    rw [Lines.ofBytes_cons]
    rcases hcut : Lines.ofBytes s with ⟨first, later, flag⟩
    rw [hcut] at ih hflag
    by_cases hfeed : b = lineFeed
    · subst hfeed
      rw [unifyBreaks_lineFeed, ← ih]
      exact Lines.text_break first later true
    by_cases hreturn : b = carriageReturn
    · subst hreturn
      cases flag with
      | true =>
        obtain ⟨s', rfl⟩ := List.head?_eq_some_iff.mp (eq_of_beq hflag.symm)
        rw [unifyBreaks_pair, ← unifyBreaks_lineFeed, ← ih]
        rfl
      | false =>
        rw [unifyBreaks_return s (beq_eq_false_iff_ne.mp hflag.symm), ← ih]
        exact Lines.text_break first later false
    · have hb := (isTerminator_eq_false_iff b).mpr ⟨hfeed, hreturn⟩
      rw [unifyBreaks_other b s hb, ← ih]
      simp only [Lines.cons, beq_eq_false_iff_ne.mpr hfeed, beq_eq_false_iff_ne.mpr hreturn,
        Bool.false_eq_true, if_false]
      exact Lines.text_byte b first later false

/-- Joining the lines of a text unifies its breaks. -/
theorem intercalate_lines (s : Bytes) : [lineFeed].intercalate (lines s) = unifyBreaks s := by
  cases s with
  | nil => rfl
  | cons b s => exact Lines.text_ofBytes (b :: s)

theorem Lines.isLine_ofBytes (s : Bytes) :
    IsLine (Lines.ofBytes s).first ∧ ∀ l ∈ (Lines.ofBytes s).later, IsLine l := by
  induction s with
  | nil => exact ⟨isLine_nil, fun l hl => by cases hl⟩
  | cons b s ih =>
    obtain ⟨hfirst, hlater⟩ := ih
    have hall : ∀ l ∈ (Lines.ofBytes s).first :: (Lines.ofBytes s).later, IsLine l := by
      intro l hl
      rcases List.mem_cons.mp hl with rfl | hl
      · exact hfirst
      · exact hlater l hl
    rw [Lines.ofBytes_cons]
    unfold Lines.cons
    split
    · exact ⟨isLine_nil, hall⟩
    · split
      · split
        · exact ⟨hfirst, hlater⟩
        · exact ⟨isLine_nil, hall⟩
      · rename_i hfeed hreturn
        refine ⟨?_, hlater⟩
        intro c hc
        rcases List.mem_cons.mp hc with rfl | hc
        · rw [beq_iff_eq] at hfeed hreturn
          exact (isTerminator_eq_false_iff c).mpr ⟨hfeed, hreturn⟩
        · exact hfirst c hc

theorem isLine_of_mem_lines (s l : Bytes) (hl : l ∈ lines s) : IsLine l := by
  unfold lines at hl
  split at hl
  · cases hl
  · obtain ⟨hfirst, hlater⟩ := Lines.isLine_ofBytes s
    rcases List.mem_cons.mp hl with rfl | hl
    · exact hfirst
    · exact hlater l hl

theorem lines_eq_nil_iff (s : Bytes) : lines s = [] ↔ s = [] := by
  cases s with
  | nil => simp [lines]
  | cons b s => simp [lines]

theorem unifyBreaks_eq_nil_iff (s : Bytes) : unifyBreaks s = [] ↔ s = [] := by
  fun_cases unifyBreaks s <;> simp

/-- Leaving out the blank lines ahead of all others takes away the line feeds in front. -/
theorem intercalate_dropWhile (ls : List Bytes) (hls : ∀ l ∈ ls, IsLine l) :
    [lineFeed].intercalate (ls.dropWhile (·.isEmpty)) =
      ([lineFeed].intercalate ls).dropWhile (· == lineFeed) := by
  induction ls with
  | nil => rfl
  | cons l rest ih =>
    cases l with
    | nil =>
      cases rest with
      | nil => rfl
      | cons t rest =>
        rw [List.intercalate_cons_cons]
        exact ih fun l hl => hls l (List.mem_cons_of_mem _ hl)
    | cons b l =>
      have hb : (b == lineFeed) = false := beq_eq_false_iff_ne.mpr
        (IsLine.ne_lineFeed _ (hls _ List.mem_cons_self) b List.mem_cons_self)
      have htext : ∃ t, [lineFeed].intercalate ((b :: l) :: rest) = b :: t := by
        cases rest with
        | nil => exact ⟨l, by simp [List.intercalate]⟩
        | cons t rest => exact ⟨_, List.intercalate_cons_cons⟩
      obtain ⟨t, ht⟩ := htext
      rw [List.dropWhile_cons_of_neg (by simp), ht, List.dropWhile_cons_of_neg (by simp [hb])]

end EventBroker.Frame
