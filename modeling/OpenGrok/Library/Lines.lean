import Mathlib.Data.List.Basic

/-! Blocks of lines.

A block is a list of lines, each ended by the same two symbols, and an empty line after
them, as the header of an Internet message is. Where it ends can be read off it, whatever
follows: two texts that start with blocks and are equal start with the same block
(`block_inj`). -/
namespace OpenGrok.Lines
variable {α : Type} (cr lf : α)

def block (lines : List (List α)) : List α :=
  lines.flatMap (· ++ [cr, lf]) ++ [cr, lf]

/-- A line that can stand in a block. -/
def IsLine (line : List α) : Prop := line ≠ [] ∧ cr ∉ line

variable {cr lf}

theorem block_cons (line : List α) (rest : List (List α)) (text : List α) :
    block cr lf (line :: rest) ++ text = line ++ cr :: lf :: (block cr lf rest ++ text) := by
  simp [block]

theorem block_nil (text : List α) : block cr lf [] ++ text = cr :: lf :: text := by
  simp [block]

/-- A line does not start as an empty one does. -/
theorem IsLine.not_cr {line text text' : List α} (h : IsLine cr line) :
    line ++ text ≠ cr :: text' := by
  obtain ⟨first, rest, rfl⟩ := List.exists_cons_of_ne_nil h.1
  intro heq
  rw [List.cons_append] at heq
  cases heq
  exact h.2 (List.mem_cons_self ..)

/-- What comes before the first `cr` is determined. -/
theorem line_inj {line line' text text' : List α} (hline : cr ∉ line) (hline' : cr ∉ line')
    (h : line ++ cr :: text = line' ++ cr :: text') : line = line' ∧ text = text' := by
  induction line generalizing line' with
  | nil =>
    cases line' with
    | nil =>
      cases h
      exact ⟨rfl, rfl⟩
    | cons first rest =>
      cases h
      exact absurd (List.mem_cons_self ..) hline'
  | cons first rest ih =>
    cases line' with
    | nil =>
      cases h
      exact absurd (List.mem_cons_self ..) hline
    | cons first' rest' =>
      obtain ⟨rfl, hrest⟩ := List.cons.inj h
      obtain ⟨rfl, htext⟩ := ih (fun hr => hline (List.mem_cons_of_mem _ hr))
        (fun hr => hline' (List.mem_cons_of_mem _ hr)) hrest
      exact ⟨rfl, htext⟩

theorem block_inj {lines lines' : List (List α)} {text text' : List α}
    (hlines : ∀ line ∈ lines, IsLine cr line) (hlines' : ∀ line ∈ lines', IsLine cr line)
    (h : block cr lf lines ++ text = block cr lf lines' ++ text') :
    lines = lines' ∧ text = text' := by
  induction lines generalizing lines' with
  | nil =>
    cases lines' with
    | nil =>
      rw [block_nil, block_nil] at h
      cases h
      exact ⟨rfl, rfl⟩
    | cons line' rest' =>
      rw [block_nil, block_cons] at h
      exact absurd h.symm (hlines' line' (List.mem_cons_self ..)).not_cr
  | cons line rest ih =>
    cases lines' with
    | nil =>
      rw [block_nil, block_cons] at h
      exact absurd h (hlines line (List.mem_cons_self ..)).not_cr
    | cons line' rest' =>
      rw [block_cons, block_cons] at h
      obtain ⟨rfl, htail⟩ := line_inj (hlines line (List.mem_cons_self ..)).2
        (hlines' line' (List.mem_cons_self ..)).2 h
      obtain ⟨rfl, htext⟩ := ih (fun l hl => hlines l (List.mem_cons_of_mem _ hl))
        (fun l hl => hlines' l (List.mem_cons_of_mem _ hl)) (List.cons.inj htail).2
      exact ⟨rfl, htext⟩

end OpenGrok.Lines
