import Mathlib.Data.List.DropRight

/-! Blanks around a text.

A text is trimmed when it neither starts nor ends with a blank; blanks put around it are
dropped again from either end. -/
namespace OpenGrok.Trim
variable {α : Type} (blank : α → Bool)

def Blanks (s : List α) : Prop := ∀ a ∈ s, blank a = true

instance (s : List α) : Decidable (Blanks blank s) :=
  inferInstanceAs (Decidable (∀ a ∈ s, blank a = true))

/-- Neither end is a blank. -/
structure Trimmed (s : List α) : Prop where
  left : s.dropWhile blank = s
  right : s.rdropWhile blank = s

variable {blank}

theorem Blanks.nil : Blanks blank [] := fun _ h => absurd h List.not_mem_nil

theorem Blanks.cons {a : α} {s : List α} (ha : blank a = true) (h : Blanks blank s) :
    Blanks blank (a :: s) := by
  intro b hb
  rcases List.mem_cons.mp hb with rfl | hb
  · exact ha
  · exact h b hb

theorem Blanks.append {s t : List α} (hs : Blanks blank s) (ht : Blanks blank t) :
    Blanks blank (s ++ t) := by
  intro a ha
  rcases List.mem_append.mp ha with ha | ha
  · exact hs a ha
  · exact ht a ha

theorem Blanks.left {s t : List α} (h : Blanks blank (s ++ t)) : Blanks blank s :=
  fun a ha => h a (List.mem_append_left _ ha)

theorem Blanks.right {s t : List α} (h : Blanks blank (s ++ t)) : Blanks blank t :=
  fun a ha => h a (List.mem_append_right _ ha)

theorem dropWhile_append {s t : List α} (h : Blanks blank s) :
    (s ++ t).dropWhile blank = t.dropWhile blank := by
  rw [List.dropWhile_append, List.dropWhile_eq_nil_iff.mpr h]
  rfl

theorem rdropWhile_append {s t : List α} (h : Blanks blank t) :
    (s ++ t).rdropWhile blank = s.rdropWhile blank := by
  induction t using List.reverseRecOn with
  | nil => rw [List.append_nil]
  | append_singleton t a ih =>
    rw [← List.append_assoc, List.rdropWhile_concat_pos _ _ _ (h.right a (List.mem_singleton_self a)),
      ih h.left]

/-- A text that does not start with a blank starts where it did. -/
theorem dropWhile_cons {a : α} {s : List α} (h : blank a = false) :
    (a :: s).dropWhile blank = a :: s :=
  List.dropWhile_cons_of_neg (by simp [h])

/-- Dropping blanks from the right stops at what is no blank. -/
theorem rdropWhile_append_cons {a : α} {s t : List α} (h : blank a = false) :
    (s ++ a :: t).rdropWhile blank = s ++ a :: t.rdropWhile blank := by
  induction t using List.reverseRecOn with
  | nil => rw [List.rdropWhile_concat_neg _ _ _ (by simp [h]), List.rdropWhile_nil]
  | append_singleton t b ih =>
    rw [← List.cons_append, ← List.append_assoc]
    by_cases hb : blank b = true
    · rw [List.rdropWhile_concat_pos _ _ _ hb, List.rdropWhile_concat_pos _ _ _ hb, ih]
    · rw [List.rdropWhile_concat_neg _ _ _ hb, List.rdropWhile_concat_neg _ _ _ hb]
      simp

/-- What is dropped on the left is blank. -/
theorem exists_dropWhile (blank : α → Bool) (s : List α) :
    ∃ front, s = front ++ s.dropWhile blank ∧ Blanks blank front :=
  ⟨s.takeWhile blank, List.takeWhile_append_dropWhile.symm, fun _ ha => List.mem_takeWhile_imp ha⟩

/-- What is dropped on the right is blank. -/
theorem exists_rdropWhile (blank : α → Bool) (s : List α) :
    ∃ back, s = s.rdropWhile blank ++ back ∧ Blanks blank back :=
  ⟨s.rtakeWhile blank, (List.rdropWhile_append_rtakeWhile ..).symm, fun _ ha => List.mem_rtakeWhile_imp ha⟩

/-- A text that is trimmed on the left starts with no blank. -/
theorem head_dropWhile {s rest : List α} {a : α} (h : s.dropWhile blank = a :: rest) :
    blank a = false := by
  have hne : s.dropWhile blank ≠ [] := by
    rw [h]
    exact List.cons_ne_nil _ _
  have hhead := List.head_dropWhile_not blank hne
  simpa only [h, List.head_cons, Bool.not_eq_true] using hhead

theorem Trimmed.nil : Trimmed blank [] := ⟨rfl, List.rdropWhile_nil _⟩

theorem Trimmed.head {a : α} {s : List α} (h : Trimmed blank (a :: s)) : blank a = false :=
  head_dropWhile h.left

end OpenGrok.Trim
