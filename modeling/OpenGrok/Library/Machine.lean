import Mathlib.Logic.Relation

/-! Machines that may fail.

A machine takes a state and an input to the next state or to a fault that ends
the run. `Reach step ok s₀` is what runs without a fault reach from `s₀` when
every input is one the environment may give in the state it meets (`ok`); an
environment that promises more reaches less (`Reach.mono`). `Reach.invariant` is
the induction every property of runs is proved with. `Except.Only` bounds the faults a
computation may end in, one bind at a time. -/
namespace OpenGrok

section Bind
variable {ε α β : Type}

/-- A computation that returned did so through its first part. -/
theorem Except.bind_ok_iff {x : Except ε α} {f : α → Except ε β} {b : β} :
    (x >>= f) = .ok b ↔ ∃ a, x = .ok a ∧ f a = .ok b := by
  cases x with
  | error e => simp [bind, Except.bind]
  | ok a => simp [bind, Except.bind]

/-- A computation that failed did so in its first part or after it. -/
theorem Except.bind_error_iff {x : Except ε α} {f : α → Except ε β} {e : ε} :
    (x >>= f) = .error e ↔ x = .error e ∨ ∃ a, x = .ok a ∧ f a = .error e := by
  cases x with
  | error e' => simp [bind, Except.bind]
  | ok a => simp [bind, Except.bind]

@[simp] theorem Except.error_bind {e : ε} {f : α → Except ε β} :
    ((Except.error e : Except ε α) >>= f) = .error e :=
  rfl

@[simp] theorem Except.throw_eq {e : ε} : (throw e : Except ε α) = .error e := rfl

/-- A computation that fails does so with an allowed error. -/
def Except.Only (ok : ε → Prop) (x : Except ε α) : Prop := ∀ e, x = .error e → ok e

namespace Except.Only
variable {allowed : ε → Prop} {x : Except ε α} {f : α → Except ε β}

theorem pure (a : α) : Except.Only allowed (Pure.pure a : Except ε α) := nofun

theorem ok (a : α) : Except.Only allowed (.ok a : Except ε α) := nofun

theorem of_eq {a : α} (h : x = .ok a) : Except.Only allowed x := by
  rw [h]
  exact ok a

theorem error {e : ε} (h : allowed e) : Except.Only allowed (.error e : Except ε α) := by
  intro e' he
  cases he
  exact h

theorem bind (hx : Except.Only allowed x) (hf : ∀ a, x = .ok a → Except.Only allowed (f a)) :
    Except.Only allowed (x >>= f) := by
  intro e he
  obtain he | ⟨a, ha, he⟩ := Except.bind_error_iff.mp he
  · exact hx e he
  · exact hf a ha e he

theorem ite {c : Prop} [Decidable c] {y : Except ε α} (hx : c → Except.Only allowed x)
    (hy : ¬c → Except.Only allowed y) : Except.Only allowed (if c then x else y) := by
  split
  · next h => exact hx h
  · next h => exact hy h

theorem mono {weaker : ε → Prop} (h : Except.Only allowed x) (hw : ∀ e, allowed e → weaker e) :
    Except.Only weaker x :=
  fun e he => hw e (h e he)

end Except.Only

/-- The computation returns, and what it returns satisfies `Q`. -/
def Except.Returns (x : Except ε α) (Q : α → Prop) : Prop :=
  match x with
  | .ok a => Q a
  | .error _ => False

instance Except.Returns.decidable (x : Except ε α) (Q : α → Prop) [DecidablePred Q] :
    Decidable (Except.Returns x Q) :=
  match x with
  | .ok a => inferInstanceAs (Decidable (Q a))
  | .error _ => isFalse id

theorem Except.Returns.exists {x : Except ε α} {Q : α → Prop} (h : Except.Returns x Q) :
    ∃ a, x = .ok a ∧ Q a := by
  cases x with
  | ok a => exact ⟨a, rfl, h⟩
  | error e => exact h.elim

end Bind

section Machine
variable {σ ι ε : Type} {step : σ → ι → Except ε σ} {ok : σ → ι → Prop} {s₀ : σ}

/-- The states that runs without a fault reach on inputs the environment may give. -/
inductive Reach (step : σ → ι → Except ε σ) (ok : σ → ι → Prop) (s₀ : σ) : σ → Prop where
  | start : Reach step ok s₀ s₀
  | next {s s' : σ} {i : ι} : Reach step ok s₀ s → ok s i → step s i = .ok s' →
      Reach step ok s₀ s'

/-- What holds at the start and survives every step holds wherever a run gets. -/
theorem Reach.invariant {P : σ → Prop} {s : σ} (h : Reach step ok s₀ s) (start : P s₀)
    (next : ∀ s i s', Reach step ok s₀ s → P s → ok s i → step s i = .ok s' → P s') : P s := by
  induction h with
  | start => exact start
  | next hr hi hs ih => exact next _ _ _ hr ih hi hs

/-- An environment that promises more reaches no more. -/
theorem Reach.mono {ok' : σ → ι → Prop} {s : σ} (h : Reach step ok s₀ s)
    (weaker : ∀ s i, ok s i → ok' s i) : Reach step ok' s₀ s :=
  h.invariant .start fun _ i _ _ hr hi hs => .next hr (weaker _ i hi) hs

/-- What is only known where runs get may be used there. -/
theorem Reach.mono_reached {ok' : σ → ι → Prop} {s : σ} (h : Reach step ok s₀ s)
    (weaker : ∀ s i, Reach step ok s₀ s → ok s i → ok' s i) : Reach step ok' s₀ s :=
  h.invariant .start fun _ i _ hr hr' hi hs => .next hr' (weaker _ i hr hi) hs

/-- What every small step preserves, a sequence of them preserves. -/
theorem Steps.invariant {α : Type} {r : α → α → Prop} {P : α → Prop} {a b : α}
    (h : Relation.ReflTransGen r a b) (step : ∀ a b, P a → r a b → P b) (start : P a) : P b := by
  induction h with
  | refl => exact start
  | tail _ hr ih => exact step _ _ ih hr

/-- A run on a list of inputs. -/
def run (step : σ → ι → Except ε σ) : σ → List ι → Except ε σ
  | s, [] => .ok s
  | s, i :: rest => do run step (← step s i) rest

/-- Every input of the list is one the environment may give where the run meets it. -/
def Permitted (step : σ → ι → Except ε σ) (ok : σ → ι → Prop) : σ → List ι → Prop
  | _, [] => True
  | s, i :: rest => ok s i ∧ match step s i with
    | .ok s' => Permitted step ok s' rest
    | .error _ => True

instance Permitted.decidable (step : σ → ι → Except ε σ) (ok : σ → ι → Prop)
    [∀ s i, Decidable (ok s i)] : ∀ s inputs, Decidable (Permitted step ok s inputs)
  | _, [] => isTrue trivial
  | s, i :: rest =>
    have : Decidable (match step s i with
        | .ok s' => Permitted step ok s' rest
        | .error _ => True) :=
      match step s i with
      | .ok s' => Permitted.decidable step ok s' rest
      | .error _ => isTrue trivial
    inferInstanceAs (Decidable (_ ∧ _))

theorem Reach.of_run {s s' : σ} {inputs : List ι} (h : Reach step ok s₀ s)
    (hp : Permitted step ok s inputs) (hr : run step s inputs = .ok s') : Reach step ok s₀ s' := by
  induction inputs generalizing s with
  | nil =>
    cases hr
    exact h
  | cons i rest ih =>
    obtain ⟨hi, hrest⟩ := hp
    obtain ⟨t, ht, hr⟩ := Except.bind_ok_iff.mp hr
    rw [ht] at hrest
    exact ih (.next h hi ht) hrest hr

/-- A run returns when every step of it does. -/
theorem Permitted.returns {s : σ} {inputs : List ι} (h : Reach step ok s₀ s)
    (hp : Permitted step ok s inputs)
    (hstep : ∀ s i, Reach step ok s₀ s → ok s i → ∃ s', step s i = .ok s') :
    ∃ s', run step s inputs = .ok s' := by
  induction inputs generalizing s with
  | nil => exact ⟨s, rfl⟩
  | cons i rest ih =>
    obtain ⟨hi, hrest⟩ := hp
    obtain ⟨t, ht⟩ := hstep s i h hi
    rw [ht] at hrest
    obtain ⟨s', hs'⟩ := ih (.next h hi ht) hrest
    exact ⟨s', Except.bind_ok_iff.mpr ⟨t, ht, hs'⟩⟩

/-- What holds of every input where runs get holds at every step of a run. -/
theorem Permitted.all {P : σ → ι → Prop} {s : σ} {inputs : List ι} (h : Reach step ok s₀ s)
    (hp : Permitted step ok s inputs) (hall : ∀ s i, Reach step ok s₀ s → ok s i → P s i) :
    Permitted step P s inputs := by
  induction inputs generalizing s with
  | nil => trivial
  | cons i rest ih =>
    obtain ⟨hi, hrest⟩ := hp
    refine ⟨hall s i h hi, ?_⟩
    cases hs : step s i with
    | error e => trivial
    | ok s' =>
      rw [hs] at hrest
      exact ih (.next h hi hs) hrest

/-- What is equivalent where runs get is equivalent at every step of a run. -/
theorem Permitted.congr {P Q : σ → ι → Prop} {s : σ} {inputs : List ι} (h : Reach step ok s₀ s)
    (hp : Permitted step ok s inputs)
    (hiff : ∀ s i, Reach step ok s₀ s → ok s i → (P s i ↔ Q s i)) :
    Permitted step P s inputs ↔ Permitted step Q s inputs := by
  induction inputs generalizing s with
  | nil => exact Iff.rfl
  | cons i rest ih =>
    obtain ⟨hi, hrest⟩ := hp
    refine and_congr (hiff s i h hi) ?_
    cases hs : step s i with
    | error e => exact Iff.rfl
    | ok s' =>
      rw [hs] at hrest
      exact ih (.next h hi hs) hrest

/-- A state with a property, reached on a list of inputs. -/
theorem Reach.exists_of_run {Q : σ → Prop} {inputs : List ι} (hp : Permitted step ok s₀ inputs)
    (hr : Except.Returns (run step s₀ inputs) Q) : ∃ s, Reach step ok s₀ s ∧ Q s := by
  obtain ⟨s, hs, hq⟩ := Except.Returns.exists hr
  exact ⟨s, .of_run .start hp hs, hq⟩

end Machine

end OpenGrok
