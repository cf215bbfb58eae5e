import Mathlib.Data.List.Basic

/-! Parsers that ask for what they need.

A `Reader` says how many symbols it needs next, and makes of that many some output and
its next state. `run` reads a stream as far as it goes, and keeps what is too short for
the next read. A socket delivers the stream in pieces: `run_append` says that the pieces
do not matter, and `run_short` and `run_exact` what becomes of one piece that is no
longer than what the reader waits for. -/
namespace OpenGrok

/-- A parser with states `σ`, from symbols `β` to outputs `ο`. -/
structure Reader (σ β ο : Type) where
  need : σ → Nat
  need_pos : ∀ s, 0 < need s
  next : σ → List β → List ο × σ

namespace Reader
variable {σ β ο : Type}

/-- How far a stream was read: the outputs, the state, and the symbols too few to go on with. -/
structure Progress (σ β ο : Type) where
  out : List ο
  state : σ
  left : List β

/-- The outputs of what was read before come first. -/
def Progress.after (out : List ο) (p : Progress σ β ο) : Progress σ β ο :=
  { p with out := out ++ p.out }

variable (r : Reader σ β ο)

def run (s : σ) (stream : List β) : Progress σ β ο :=
  if stream.length < r.need s then ⟨[], s, stream⟩
  else
    let (out, s') := r.next s (stream.take (r.need s))
    (run s' (stream.drop (r.need s))).after out
termination_by stream.length
decreasing_by
  have hpos := r.need_pos s
  simp only [List.length_drop]
  omega

variable {r} {s : σ} {stream : List β}

theorem run_short (h : stream.length < r.need s) : r.run s stream = ⟨[], s, stream⟩ := by
  rw [run, if_pos h]

theorem run_step {piece : List β} (h : piece.length = r.need s) (rest : List β) :
    r.run s (piece ++ rest) =
      (r.run (r.next s piece).2 rest).after (r.next s piece).1 := by
  have hlong : ¬(piece ++ rest).length < r.need s := by
    rw [List.length_append]
    omega
  rw [run, if_neg hlong, ← h, List.take_left, List.drop_left]

/-- Exactly what the reader waits for. -/
theorem run_exact (h : stream.length = r.need s) :
    r.run s stream = ⟨(r.next s stream).1, (r.next s stream).2, []⟩ := by
  have hstep := run_step h []
  rw [List.append_nil] at hstep
  have hnil : ([] : List β).length < r.need (r.next s stream).2 := r.need_pos _
  rw [hstep, run_short hnil]
  simp [Progress.after]

/-- What is left over is too little to go on with. -/
theorem run_left (r : Reader σ β ο) (s : σ) (stream : List β) :
    (r.run s stream).left.length < r.need (r.run s stream).state := by
  induction s, stream using run.induct r with
  | case1 s stream hshort =>
    rw [run_short hshort]
    exact hshort
  | case2 s stream hlong out s' hnext ih =>
    rw [run, if_neg hlong, hnext]
    exact ih

/-- **A stream may come in pieces**: what was left over of one is read with the next. -/
theorem run_append (r : Reader σ β ο) (s : σ) (a b : List β) :
    r.run s (a ++ b) =
      (r.run (r.run s a).state ((r.run s a).left ++ b)).after (r.run s a).out := by
  induction s, a using run.induct r with
  | case1 s a hshort =>
    rw [run_short hshort]
    rfl
  | case2 s a hlong out s' hnext ih =>
    have hlen : (a.take (r.need s)).length = r.need s := by
      rw [List.length_take]
      omega
    have hsplit : a = a.take (r.need s) ++ a.drop (r.need s) := (List.take_append_drop ..).symm
    generalize a.take (r.need s) = piece at hlen hsplit hnext
    generalize a.drop (r.need s) = rest at ih hsplit
    subst hsplit
    rw [List.append_assoc, run_step hlen, run_step hlen, hnext, ih]
    simp [Progress.after]

end Reader

end OpenGrok
