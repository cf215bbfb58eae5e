import OpenGrok.Loop.Run
import OpenGrok.Server.Commands
import OpenGrok.Server.Decode

/-! An event is a sequence of effects.

`handleEvent_handled` inverts the loop once: from a sound world, an event that returns
has done a sequence of effects, or has received a frame's read to its end and done what
its handler does. Every property of runs is an induction over these (`Handled.invariant`). -/
namespace OpenGrok

/-- The names are well formed, and so is what is kept under each descriptor. -/
structure World.Sound (w : World) : Prop where
  wf : w.names.Wf
  views : ∀ {x}, x ≠ -1 → (w.view x).Sound x

section
variable {env : Env} {P : Terms} {w w' : World} {fd : SockT}

theorem Effect.sound (h : Effect env P w w') (hw : w.Sound) : w'.Sound where
  wf := h.wf hw.wf
  views hx := Steps.invariant (h.moves hw.wf hx) (fun _ _ hv hm => hm.sound hv) (hw.views hx)

theorem Effects.sound (h : Effects env P w w') (hw : w.Sound) : w'.Sound :=
  Steps.invariant h (fun _ _ hw he => he.sound hw) hw

/-- The front read of a main connection is received to its end. -/
inductive World.HeardAll (fd : SockT) (w : World) : World → Prop where
  | mk (fd' : SockT) (state : PacketState) (length u64 : Nat) (buffer bytes : Bytes)
      (rest : List ReadItem) : w.names.linked fd = some .freeGrok →
      (w.view fd).queues.read = .read fd' state length u64 buffer :: rest →
      buffer.length + bytes.length = length →
      World.HeardAll fd w (w.heard fd (.read fd' state length u64 (buffer ++ bytes)) rest bytes)

/-- What its handler queued for a main connection takes the front read's place. -/
inductive World.Advanced (fd : SockT) (w : World) : World → Prop where
  | mk (state : PacketState) (length u64 : Nat) : w.names.linked fd = some .freeGrok →
      (w.view fd).queues.read ≠ [] → Asks state length u64 →
      World.Advanced fd w (w.advanced fd (.read fd state length u64 []))

/-- What one event does. -/
inductive Handled (env : Env) (P : Terms) (fd : SockT) (w : World) : World → Prop where
  | effects {w' : World} : Effects env P w w' → Handled env P fd w w'
  | frame {w1 w2 w3 w' : World} : Effects env P w w1 → w1.HeardAll fd w2 → Effects env P w2 w3 →
      w3.Advanced fd w' → Handled env P fd w w'

theorem World.HeardAll.view (h : w.HeardAll fd w') (x : SockT) :
    (x = fd → OpenGrok.HeardAll x (w.view x) (w'.view x)) ∧ (x ≠ fd → w'.view x = w.view x) := by
  obtain ⟨fd', state, length, u64, buffer, bytes, rest, hl, hr, hlen⟩ := h
  constructor
  · intro hsame
    subst hsame
    rw [World.view_heard, if_pos rfl]
    exact .mk fd' state length u64 buffer bytes rest hl hr hlen
  · intro hne
    rw [World.view_heard, if_neg hne]

theorem World.Advanced.view (h : w.Advanced fd w') (x : SockT) :
    (x = fd → OpenGrok.Advanced x (w.view x) (w'.view x)) ∧ (x ≠ fd → w'.view x = w.view x) := by
  obtain ⟨state, length, u64, hl, hr, hlen⟩ := h
  constructor
  · intro hsame
    subst hsame
    rw [World.view_advanced, if_pos rfl]
    exact .mk state length u64 hl hr hlen
  · intro hne
    rw [World.view_advanced, if_neg hne]

theorem World.HeardAll.registry (h : w.HeardAll fd w') : w'.toRegistry = w.toRegistry := by
  cases h
  rfl

theorem World.Advanced.registry (h : w.Advanced fd w') : w'.toRegistry = w.toRegistry := by
  cases h
  rfl

theorem World.HeardAll.sound (h : w.HeardAll fd w') (hw : w.Sound) : w'.Sound where
  wf := h.registry ▸ hw.wf
  views {x} hx := by
    by_cases he : x = fd
    · exact ((h.view x).1 he).sound (hw.views hx)
    · rw [(h.view x).2 he]
      exact hw.views hx

theorem World.Advanced.sound (h : w.Advanced fd w') (hw : w.Sound) : w'.Sound where
  wf := h.registry ▸ hw.wf
  views {x} hx := by
    by_cases he : x = fd
    · exact ((h.view x).1 he).sound (hw.views hx)
    · rw [(h.view x).2 he]
      exact hw.views hx

/-- What effects and a frame's two ends preserve, an event preserves. -/
theorem Handled.invariant {I : World → Prop} (h : Handled env P fd w w') (hw : w.Sound)
    (effect : ∀ w w', w.Sound → I w → Effect env P w w' → I w')
    (heard : ∀ w w', w.Sound → I w → w.HeardAll fd w' → I w')
    (advanced : ∀ w w', w.Sound → I w → w.Advanced fd w' → I w') (hi : I w) : I w' := by
  have effects {w w' : World} (h : Effects env P w w') (hw : w.Sound) (hi : I w) :
      w'.Sound ∧ I w' :=
    Steps.invariant (P := fun w => w.Sound ∧ I w) h
      (fun _ _ hs he => ⟨he.sound hs.1, effect _ _ hs.1 hs.2 he⟩) ⟨hw, hi⟩
  cases h with
  | effects h => exact (effects h hw hi).2
  | frame h1 h2 h3 h4 =>
    obtain ⟨hw1, hi1⟩ := effects h1 hw hi
    obtain ⟨hw3, hi3⟩ := effects h3 (h2.sound hw1) (heard _ _ hw1 hi1 h2)
    exact advanced _ _ hw3 hi3 h4

theorem Handled.sound (h : Handled env P fd w w') (hw : w.Sound) : w'.Sound :=
  h.invariant hw (fun _ _ _ hw he => he.sound hw) (fun _ _ _ hw hh => hh.sound hw)
    (fun _ _ _ hw ha => ha.sound hw) hw

end

end OpenGrok
