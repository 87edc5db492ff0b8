/-!
Runs of a system that takes one step after another. Where a run leads, further steps and further
runs lead on, and what every step keeps holds throughout.
-/
namespace EventBroker

variable {σ α : Type}

/-- What a state can go on to, one step after another. -/
inductive Continues (next : σ → α → σ) (start : σ) : σ → Prop
  | refl : Continues next start start
  | step {s : σ} (hr : Continues next start s) (a : α) : Continues next start (next s a)

namespace Continues

variable {next : σ → α → σ} {start s s' : σ}

theorem run (hr : Continues next start s) (as : List α) :
    Continues next start (as.foldl next s) := by
  induction as generalizing s with
  | nil => exact hr
  | cons a as ih => exact ih (hr.step a)

theorem trans (hr : Continues next start s) (hr' : Continues next s s') :
    Continues next start s' := by
  induction hr' with
  | refl => exact hr
  | step _ a ih => exact ih.step a

/-- A step need keep a property only where runs lead. -/
theorem of_step (hr : Continues next start s) {P : σ → Prop} (hstart : P start)
    (hstep : ∀ s, Continues next start s → P s → ∀ a, P (next s a)) : P s := by
  induction hr with
  | refl => exact hstart
  | step hr a ih => exact hstep _ hr ih a

end Continues

end EventBroker
