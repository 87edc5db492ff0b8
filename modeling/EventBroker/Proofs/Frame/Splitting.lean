import EventBroker.Proofs.Frame.Drain
import EventBroker.Proofs.Frame.Grammar

/-!
A decoder accepts the grammar and nothing else. It sees one byte after another, but the
lines and frames that end in a text are the ones that the whole text is cut into, so one
call gives the events of the text, and it refuses the text only for the size of what is
still open at its end.
-/
namespace EventBroker.Frame

open Bytes

/-- A list with more than one member, taken apart at both ends. -/
theorem cons_eq_concat {α : Type} (x last : α) (rest xs : List α) (hrest : rest ≠ [])
    (h : x :: rest = xs ++ [last]) : ∃ ys, xs = x :: ys ∧ rest = ys ++ [last] := by
  rcases List.cons_eq_append_iff.mp h with ⟨_, hsingle⟩ | ⟨ys, hxs, hys⟩
  · exact absurd (List.cons.inj hsingle).2.symm hrest
  · exact ⟨ys, hxs, hys⟩

theorem singleton_eq_concat {α : Type} (x last : α) (xs : List α) (h : [x] = xs ++ [last]) :
    xs = [] ∧ last = x := by
  have hlast := congrArg List.getLast? h
  have hinit := congrArg List.dropLast h
  rw [List.getLast?_concat] at hlast
  rw [List.dropLast_concat] at hinit
  exact ⟨hinit.symm, (Option.some.inj hlast).symm⟩

theorem modifyHead_nil_append {α : Type} (xs : List (List α)) : xs.modifyHead ([] ++ ·) = xs := by
  cases xs <;> rfl

theorem dropLast_append_getD {α : Type} (xs : List (List α)) (hxs : xs ≠ []) :
    xs.dropLast ++ [xs.getLast?.getD []] = xs := by
  rw [List.getLast?_eq_some_getLast hxs, Option.getD_some, List.dropLast_concat_getLast hxs]

theorem cutLines_ne_nil (s : Bytes) : cutLines s ≠ [] := List.splitOn_ne_nil _ _

theorem cutFrames_ne_nil (ls : List Bytes) : cutFrames ls ≠ [] := List.splitOn_ne_nil _ _

/-- A line feed after a carriage return belongs to it. -/
def afterBreak (skip : Bool) (s : Bytes) : Bytes :=
  if skip = true ∧ s.head? = some lineFeed then s.tail else s

theorem cutLines_terminator (b : UInt8) (s : Bytes) (hb : isTerminator b = true) :
    cutLines (b :: s) = [] :: cutLines (afterBreak (b == carriageReturn) s) := by
  have hfeed : cutLines (lineFeed :: s) = [] :: cutLines s := by
    unfold cutLines
    rw [unifyBreaks_lineFeed, List.splitOn_cons_eq_if_modifyHead, if_pos (beq_self_eq_true _)]
  by_cases hreturn : b = carriageReturn
  · subst hreturn
    unfold afterBreak cutLines
    rw [beq_self_eq_true]
    by_cases hpair : s.head? = some lineFeed
    · obtain ⟨t, rfl⟩ := List.head?_eq_some_iff.mp hpair
      rw [unifyBreaks_pair, List.splitOn_cons_eq_if_modifyHead, if_pos (beq_self_eq_true _),
        if_pos ⟨rfl, rfl⟩]
      rfl
    · rw [unifyBreaks_return s hpair, List.splitOn_cons_eq_if_modifyHead,
        if_pos (beq_self_eq_true _), if_neg fun h => hpair h.2]
  · have hlf : b = lineFeed := by
      simpa [isTerminator, hreturn] using hb
    rw [beq_eq_false_iff_ne.mpr hreturn, hlf, hfeed]
    rfl

theorem cutLines_other (b : UInt8) (s : Bytes) (hb : isTerminator b = false) :
    cutLines (b :: s) = (cutLines s).modifyHead (b :: ·) := by
  have hne := ((isTerminator_eq_false_iff b).mp hb).1
  unfold cutLines
  rw [unifyBreaks_other b s hb, List.splitOn_cons_eq_if_modifyHead,
    if_neg (by simpa using hne)]

theorem cutFrames_cons (line : Bytes) (ls : List Bytes) :
    cutFrames (line :: ls) =
      if line = [] then [] :: cutFrames ls else (cutFrames ls).modifyHead (line :: ·) := by
  unfold cutFrames
  rw [List.splitOn_cons_eq_if_modifyHead]
  simp only [beq_iff_eq]

theorem cutFrames_of_not_mem (ls : List Bytes) (h : [] ∉ ls) : cutFrames ls = [ls] := by
  induction ls with
  | nil => rfl
  | cons line ls ih =>
    rw [List.mem_cons, not_or] at h
    rw [cutFrames_cons, if_neg (Ne.symm h.1), ih h.2, List.modifyHead_cons]

namespace Decoder

def within (limit : Nat) (frame : List Bytes) (line : Bytes) (skip : Bool) : Decoder :=
  { limit, base64 := false, buffer := line, pending := .ofLines frame, skipLineFeed := skip }

variable (limit : Nat)

theorem step_within_terminator (frame : List Bytes) (line : Bytes) (skip : Bool) (b : UInt8)
    (hskip : ¬(skip = true ∧ b = lineFeed)) (hb : isTerminator b = true) :
    (within limit frame line skip).step b =
      if line = [] then
        (within limit [] [] (b == carriageReturn),
          (if frame.isEmpty then none else some (frameEvent frame)).map .ok)
      else (within limit (frame ++ [line]) [] (b == carriageReturn), none) := by
  have hread : (skip && b == lineFeed) = false := by
    simpa [Bool.and_eq_false_iff] using hskip
  have hstep : (within limit frame line skip).step b =
      (within limit frame [] (b == carriageReturn)).readLine line := by
    simp only [step, within, hread, hb, Bool.false_eq_true, if_false, if_true]
  rw [hstep]
  unfold readLine within
  cases line with
  | nil =>
    simp only [List.isEmpty_nil, if_true, Pending.close_ofLines]
    rfl
  | cons c line =>
    simp only [List.isEmpty_cons, Bool.false_eq_true, if_false, Pending.ofLines_concat]
    rfl

theorem step_within_skip (frame : List Bytes) (line : Bytes) :
    (within limit frame line true).step lineFeed = (within limit frame line false, none) := rfl

theorem step_within_other (frame : List Bytes) (line : Bytes) (skip : Bool) (b : UInt8)
    (hb : isTerminator b = false) :
    (within limit frame line skip).step b = (within limit frame (line ++ [b]) false, none) := by
  have hne : (b == lineFeed) = false := beq_eq_false_iff_ne.mpr ((isTerminator_eq_false_iff b).mp hb).1
  simp only [step, within, hne, hb, Bool.and_false, Bool.false_eq_true, if_false]

/-- A decoder splits a text as the grammar does: the first line and the first frame that
end in it go on with what was open before. -/
theorem scan_within (s : Bytes) (frame : List Bytes) (line : Bytes) (skip : Bool)
    (ls : List Bytes) (last : Bytes) (fs : List (List Bytes)) (rest : List Bytes)
    (hls : (cutLines (afterBreak skip s)).modifyHead (line ++ ·) = ls ++ [last])
    (hfs : (cutFrames ls).modifyHead (frame ++ ·) = fs ++ [rest]) :
    ∃ skip', (within limit frame line skip).scan s =
      .ok (within limit rest last skip', (fs.filter (!·.isEmpty)).map frameEvent) := by
  induction s generalizing frame line skip ls last fs rest with
  | nil =>
    have hcut : [line] = ls ++ [last] := by simpa [afterBreak, cutLines, unifyBreaks] using hls
    obtain ⟨rfl, rfl⟩ := singleton_eq_concat _ _ _ hcut
    have hopen : [frame] = fs ++ [rest] := by simpa [cutFrames] using hfs
    obtain ⟨rfl, rfl⟩ := singleton_eq_concat _ _ _ hopen
    exact ⟨skip, rfl⟩
  | cons b s ih =>
    by_cases hskip : skip = true ∧ b = lineFeed
    · obtain ⟨rfl, rfl⟩ := hskip
      rw [scan_cons _ _ _ _ none (step_within_skip limit frame line), Option.toList_none,
        prepend_nil]
      exact ih frame line false ls last fs rest hls hfs
    have hafter : afterBreak skip (b :: s) = b :: s := by
      rw [afterBreak, List.head?_cons, if_neg]
      exact fun h => hskip ⟨h.1, Option.some.inj h.2⟩
    rw [hafter] at hls
    by_cases hb : isTerminator b = true
    · have hstep := step_within_terminator limit frame line skip b hskip hb
      rw [cutLines_terminator b s hb, List.modifyHead_cons, List.append_nil] at hls
      obtain ⟨ls, rfl, hrest⟩ := cons_eq_concat _ _ _ _ (cutLines_ne_nil _) hls
      rw [← modifyHead_nil_append (cutLines _)] at hrest
      rw [cutFrames_cons] at hfs
      by_cases hline : line = []
      · -- A blank line closes the frame.
        rw [if_pos hline] at hfs hstep
        rw [List.modifyHead_cons, List.append_nil] at hfs
        obtain ⟨fs, rfl, hfrest⟩ := cons_eq_concat _ _ _ _ (cutFrames_ne_nil _) hfs
        rw [← modifyHead_nil_append (cutFrames ls)] at hfrest
        obtain ⟨skip', hscan⟩ := ih [] [] _ ls last fs rest hrest hfrest
        rw [scan_cons _ _ _ _ _ hstep, hscan, prepend_ok]
        refine ⟨skip', ?_⟩
        cases frame with
        | nil => rfl
        | cons l frame => rfl
      · rw [if_neg hline] at hfs hstep
        rw [List.modifyHead_modifyHead] at hfs
        rw [scan_cons _ _ _ _ none hstep, Option.toList_none, prepend_nil]
        apply ih (frame ++ [line]) [] _ ls last fs rest hrest
        rw [← hfs]
        congr 1
        funext g
        simp
    · have hb' : isTerminator b = false := Bool.eq_false_iff.mpr hb
      rw [cutLines_other b s hb', List.modifyHead_modifyHead] at hls
      rw [scan_cons _ _ _ _ none (step_within_other limit frame line skip b hb'),
        Option.toList_none, prepend_nil]
      apply ih frame (line ++ [b]) false ls last fs rest _ hfs
      rw [← hls]
      congr 1
      funext l
      simp

/-- A text is read as the grammar cuts it, and what is open at its end stays open. -/
theorem scan_eq_eventsOf (s : Bytes) :
    ∃ skip, (new limit false).scan s =
      .ok (within limit (openFrame s) (openLine s) skip, eventsOf s) := by
  have hls := dropLast_append_getD (cutLines s) (cutLines_ne_nil s)
  have hfs := dropLast_append_getD (cutFrames (cutLines s).dropLast) (cutFrames_ne_nil _)
  apply scan_within limit s [] [] false
  · rw [modifyHead_nil_append]
    exact hls.symm
  · rw [modifyHead_nil_append]
    exact hfs.symm

/-- Behind what was read so far, a text in which no blank line ends closes no frame. -/
theorem scan_of_unclosed (frame : List Bytes) (line : Bytes) (skip : Bool) (s : Bytes)
    (hs : [] ∉ (cutLines s).dropLast) :
    ∃ d, (within limit frame line skip).scan s = .ok (d, []) := by
  have hafter : afterBreak skip s = s := by
    unfold afterBreak
    split
    · next hfeed =>
      -- A line feed in front, which would belong to what was read before, ends a blank line.
      obtain ⟨rest, rfl⟩ := List.head?_eq_some_iff.mp hfeed.2
      rw [cutLines_terminator lineFeed rest rfl,
        List.dropLast_cons_of_ne_nil (cutLines_ne_nil _)] at hs
      exact absurd List.mem_cons_self hs
    · rfl
  obtain ⟨first, rest, hcut⟩ := List.exists_cons_of_ne_nil (cutLines_ne_nil s)
  have hnone : [] ∉ ((line ++ first) :: rest).dropLast := by
    rw [hcut] at hs
    cases rest with
    | nil => exact List.not_mem_nil
    | cons second rest =>
      rw [List.dropLast_cons_of_ne_nil (List.cons_ne_nil _ _), List.mem_cons, not_or] at hs ⊢
      exact ⟨fun h => hs.1 (List.append_eq_nil_iff.mp h.symm).2.symm, hs.2⟩
  have hls := dropLast_append_getD ((line ++ first) :: rest) (List.cons_ne_nil _ _)
  have hfs : (cutFrames ((line ++ first) :: rest).dropLast).modifyHead (frame ++ ·) =
      [] ++ [frame ++ ((line ++ first) :: rest).dropLast] := by
    rw [cutFrames_of_not_mem _ hnone]
    rfl
  obtain ⟨skip', hscan⟩ := scan_within limit s frame line skip _ _ [] _
    (by rw [hafter, hcut, List.modifyHead_cons, hls]) hfs
  exact ⟨_, hscan⟩

theorem retained_within (frame : List Bytes) (line : Bytes) (skip : Bool) :
    (within limit frame line skip).retained =
      line.length + (frameData frame).length + (frameComment frame).length
        + (frameName frame).length := by
  have hsize : (within limit frame line skip).retained =
      line.length + (Pending.ofLines frame).size := rfl
  rw [hsize, Pending.size_ofLines]
  omega

/-- One call on a fresh decoder gives the events of the text, unless what is open at its end
is over the limit. -/
theorem decode_eq_eventsOf (s : Bytes) :
    ((new limit false).decode s).2 =
      if openSize s ≤ limit then .ok (eventsOf s) else .error (.oversized limit) := by
  obtain ⟨skip, hscan⟩ := scan_eq_eventsOf limit s
  rw [decode_of_scan (caughtUp_new limit false) _ s _ hscan]
  simp only [retained_within]
  rfl

/-- All three line breaks, a value that is left out, a delay that is no number, and an open end. -/
example :
    eventsOf (Bytes.ofString "id: 7\rdata: a\ndata\r\n\nretry: x\n\r\ndata: b\n") =
      [{ id := [55], data := [97, 10] }, {}] := by
  decide +kernel

end Decoder
end EventBroker.Frame
