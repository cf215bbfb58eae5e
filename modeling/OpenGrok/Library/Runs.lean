import Mathlib.Data.List.Basic

/-! Runs that show something.

A step takes a state to the next and shows some labels, none or several. `Runs step s
shown t` says that steps lead from `s` to `t` and show these labels, in order. What
every step preserves, of the labels so far and the state, holds at the end of a run
(`Runs.along`). -/
namespace OpenGrok

section
variable {σ α : Type} {step : σ → List α → σ → Prop} {s t u : σ} {shown shown' : List α}

inductive Runs (step : σ → List α → σ → Prop) (s : σ) : List α → σ → Prop where
  | refl : Runs step s [] s
  | tail {shown new : List α} {t u : σ} : Runs step s shown t → step t new u →
      Runs step s (shown ++ new) u

namespace Runs

/-- **What every step preserves**, of the labels so far and the state, holds at the end. -/
theorem along {I : List α → σ → Prop} (h : Runs step s shown t) (start : I [] s)
    (next : ∀ shown t new u, I shown t → step t new u → I (shown ++ new) u) : I shown t := by
  induction h with
  | refl => exact start
  | tail _ hstep ih => exact next _ _ _ _ ih hstep

/-- What holds of the labels of every step holds of all labels. -/
theorem shows {Q : α → Prop} (h : Runs step s shown t)
    (each : ∀ s new t, step s new t → ∀ a ∈ new, Q a) : ∀ a ∈ shown, Q a := by
  refine h.along (I := fun shown _ => ∀ a ∈ shown, Q a) nofun ?_
  intro shown t new u hshown hstep a ha
  rcases List.mem_append.mp ha with ha | ha
  · exact hshown a ha
  · exact each t new u hstep a ha

/-- If no step shows more labels of a kind than what its labels stand for, no run does. -/
theorem count_le {β : Type} {p : α → Bool} {means : α → List β} (h : Runs step s shown t)
    (each : ∀ s new t, step s new t → new.countP p ≤ (new.flatMap means).length) :
    shown.countP p ≤ (shown.flatMap means).length := by
  refine h.along (I := fun shown _ => shown.countP p ≤ (shown.flatMap means).length)
    (Nat.le_refl _) ?_
  intro shown t new u hshown hstep
  have hnew := each t new u hstep
  rw [List.countP_append, List.flatMap_append, List.length_append]
  omega

end Runs

end

end OpenGrok
