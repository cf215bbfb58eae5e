import Mathlib.Data.List.Basic

/-! Histories.

A history is a list of actions, the newest first. `since mark part h` collects
what `part` takes from each action after the last one that `mark` selects, in
the order it happened: the bytes read from a socket since it was accepted, the
payloads sent for a client since it was announced. `Always P h` says that every action
met its condition `P` when it happened, given what had happened before. -/
namespace OpenGrok.History
variable {α β : Type} (mark : α → Bool) (part : α → List β)

/-- An action of a kind of which there is one in the history stands where that one stands. -/
theorem split_at {p : α → Prop} {recent recent' new before : List α} {a b : α}
    (h : recent ++ a :: (new ++ before) = recent' ++ b :: before) (ha : p a)
    (hrest : ∀ c ∈ recent', ¬p c) : new = [] ∧ a = b := by
  have hsplit : recent ++ a :: new = recent' ++ [b] := by
    have hsame : recent ++ a :: new ++ before = recent' ++ [b] ++ before := by simpa using h
    exact List.append_cancel_right hsame
  obtain rfl | ⟨init, last, rfl⟩ := List.eq_nil_or_concat new
  · exact ⟨rfl, List.singleton_injective (List.append_inj' hsplit rfl).2⟩
  · have hlast : (recent ++ a :: init) ++ [last] = recent' ++ [b] := by simpa using hsplit
    have hinit : recent ++ a :: init = recent' := (List.append_inj' hlast rfl).1
    exact absurd ha (hrest a (hinit ▸ List.mem_append_right _ (List.mem_cons_self ..)))

/-- Where something has happened, the history is another one. -/
theorem ne_later {recent new before : List α} {a : α} :
    before ≠ recent ++ a :: (new ++ before) := by
  intro h
  have hlength := congrArg List.length h
  simp only [List.length_append, List.length_cons] at hlength
  omega

/-- What `part` takes from the actions after the last mark, oldest first. -/
def since : List α → List β
  | [] => []
  | a :: before => if mark a then [] else since before ++ part a

@[simp] theorem since_nil : since mark part [] = [] := rfl

theorem since_mark {a : α} {before : List α} (h : mark a = true) :
    since mark part (a :: before) = [] := by
  simp [since, h]

theorem since_cons {a : α} {before : List α} (h : mark a = false) :
    since mark part (a :: before) = since mark part before ++ part a := by
  simp [since, h]

/-- An action that is no mark and contributes nothing leaves the collection as it was. -/
theorem since_skip {a : α} {before : List α} (h : mark a = false) (hp : part a = []) :
    since mark part (a :: before) = since mark part before := by
  rw [since_cons mark part h, hp, List.append_nil]

/-- Actions none of which marks or contributes can be dropped from the recent end. -/
theorem since_append {recent before : List α}
    (h : ∀ a ∈ recent, mark a = false ∧ part a = []) :
    since mark part (recent ++ before) = since mark part before := by
  induction recent with
  | nil => rfl
  | cons a rest ih =>
    obtain ⟨hm, hp⟩ := h a (List.mem_cons_self ..)
    rw [List.cons_append, since_skip mark part hm hp]
    exact ih fun b hb => h b (List.mem_cons_of_mem _ hb)

/-- Where no action contributes there is nothing, whatever marks. -/
theorem since_eq_nil {h : List α} (hp : ∀ a ∈ h, part a = []) : since mark part h = [] := by
  induction h with
  | nil => rfl
  | cons a before ih =>
    cases hm : mark a with
    | true => exact since_mark mark part hm
    | false =>
      rw [since_skip mark part hm (hp a (List.mem_cons_self ..))]
      exact ih fun b hb => hp b (List.mem_cons_of_mem a hb)

/-- What is taken from what is taken. -/
theorem since_flatMap {γ : Type} (part' : β → List γ) (h : List α) :
    since mark (fun a => (part a).flatMap part') h = (since mark part h).flatMap part' := by
  induction h with
  | nil => rfl
  | cons a before ih =>
    cases hm : mark a with
    | true => rw [since_mark mark _ hm, since_mark mark _ hm, List.flatMap_nil]
    | false => rw [since_cons mark _ hm, since_cons mark _ hm, ih, List.flatMap_append]

/-! ### Conditions on actions -/

/-- Every action met its condition, given what had happened before it. -/
def Always (P : α → List α → Prop) : List α → Prop
  | [] => True
  | a :: before => P a before ∧ Always P before

theorem Always.cons {P : α → List α → Prop} {a : α} {before : List α} (h : Always P before)
    (ha : P a before) : Always P (a :: before) :=
  ⟨ha, h⟩

end OpenGrok.History
