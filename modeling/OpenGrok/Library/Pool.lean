import Mathlib.Order.Interval.Set.Nat

/-! Pools of numbers.

A pool hands out numbers: one that came back, the first that did, or else the next
one never used. `Conserves held` says that whoever draws from the pool holds `held`,
and that what is held and what is free are the numbers used so far, each of them
once. Drawing hands out a number nobody holds, and giving back held numbers conserves
them; as the counter grows only when nothing is free, it is bounded by how many
numbers are ever held at once (`draw_bounded`). `Guards held` allows for numbers that
are lost, and still keeps the holders apart. -/
namespace OpenGrok

structure Pool where
  last : Nat := 0
  free : List Nat := []

namespace Pool

def draw (pool : Pool) : Nat × Pool :=
  match pool.free with
  | [] => (pool.last, { pool with last := pool.last + 1 })
  | number :: rest => (number, { pool with free := rest })

def release (pool : Pool) (numbers : List Nat) : Pool :=
  { pool with free := pool.free ++ numbers }

/-- What is held and what is free are the numbers below `last`, each of them once. -/
structure Conserves (pool : Pool) (held : Set Nat) : Prop where
  nodup : pool.free.Nodup
  apart : ∀ number ∈ pool.free, number ∉ held
  all : ∀ number, number ∈ pool.free ∨ number ∈ held ↔ number < pool.last

namespace Conserves
variable {pool : Pool} {held : Set Nat}

theorem empty : Conserves {} ∅ := ⟨List.nodup_nil, by simp, by simp⟩

theorem held_lt (h : pool.Conserves held) {number : Nat} (hn : number ∈ held) :
    number < pool.last :=
  (h.all number).mp (.inr hn)

/-- Nobody holds the number that is drawn. -/
theorem draw_fresh (h : pool.Conserves held) : pool.draw.1 ∉ held := by
  unfold Pool.draw
  split
  · exact fun hn => Nat.lt_irrefl _ (h.held_lt hn)
  · next number rest hfree => exact h.apart number (hfree ▸ List.mem_cons_self ..)

theorem draw (h : pool.Conserves held) : pool.draw.2.Conserves (insert pool.draw.1 held) := by
  obtain ⟨hnodup, hapart, hall⟩ := h
  unfold Pool.draw
  split
  · next hfree =>
    rw [hfree] at hall
    refine ⟨hnodup, by simp [hfree], fun number => ?_⟩
    have h := hall number
    simp only [hfree, List.not_mem_nil, false_or, Set.mem_insert_iff] at h ⊢
    rw [h]
    omega
  · next number rest hfree =>
    rw [hfree] at hnodup hapart hall
    obtain ⟨hnumber, hrest⟩ := List.nodup_cons.mp hnodup
    refine ⟨hrest, fun other hother => ?_, fun other => ?_⟩
    · have hne : other ≠ number := fun he => hnumber (he ▸ hother)
      simp [hne, hapart other (List.mem_cons_of_mem _ hother)]
    · have h := hall other
      simp only [List.mem_cons, Set.mem_insert_iff] at h ⊢
      tauto

/-- The held numbers of a pool that has nothing free are all that were used. -/
theorem held_full (h : pool.Conserves held) (hfree : pool.free = []) : held = Set.Iio pool.last := by
  ext number
  have h := h.all number
  simp only [hfree, List.not_mem_nil, false_or] at h
  exact h

/-- The counter stays within a bound on how many numbers are held at once. -/
theorem draw_bounded (h : pool.Conserves held) {bound : Nat} (hlast : pool.last ≤ bound)
    (hheld : (insert pool.draw.1 held).ncard ≤ bound) : pool.draw.2.last ≤ bound := by
  have hfull := h.draw.held_full
  unfold Pool.draw at hheld hfull ⊢
  split
  · next hfree =>
    simp only [hfree] at hheld hfull
    rw [hfull trivial, Set.ncard_Iio_nat] at hheld
    exact hheld
  · exact hlast

/-- Held numbers are given back, each of them once. -/
theorem release (h : pool.Conserves held) {numbers : List Nat} (hnumbers : numbers.Nodup)
    (hheld : ∀ number ∈ numbers, number ∈ held) :
    (pool.release numbers).Conserves (held \ {number | number ∈ numbers}) := by
  obtain ⟨hnodup, hapart, hall⟩ := h
  refine ⟨?_, fun number hn => ?_, fun number => ?_⟩
  · refine List.nodup_append.mpr ⟨hnodup, hnumbers, ?_⟩
    intro a ha b hb hsame
    subst hsame
    exact hapart a ha (hheld a hb)
  · obtain hn | hn := List.mem_append.mp hn
    · exact fun hmem => hapart number hn hmem.1
    · exact fun hmem => hmem.2 hn
  · have h := hall number
    have hsub := hheld number
    simp only [Pool.release, List.mem_append, Set.mem_sdiff, Set.mem_ofPred_eq]
    tauto

end Conserves

/-- What is free is free once and held by nobody. Numbers may be lost: neither free nor held. -/
structure Guards (pool : Pool) (held : Set Nat) : Prop where
  nodup : pool.free.Nodup
  apart : ∀ number ∈ pool.free, number ∉ held
  below : ∀ number, number ∈ pool.free ∨ number ∈ held → number < pool.last

namespace Guards
variable {pool : Pool} {held : Set Nat}

theorem empty : Guards {} ∅ := ⟨List.nodup_nil, by simp, by simp⟩

/-- Nobody holds the number that is drawn. -/
theorem draw_fresh (h : pool.Guards held) : pool.draw.1 ∉ held := by
  unfold Pool.draw
  split
  · exact fun hn => Nat.lt_irrefl _ (h.below _ (.inr hn))
  · next number rest hfree => exact h.apart number (hfree ▸ List.mem_cons_self ..)

theorem draw (h : pool.Guards held) : pool.draw.2.Guards (insert pool.draw.1 held) := by
  obtain ⟨hnodup, hapart, hbelow⟩ := h
  unfold Pool.draw
  split
  · next hfree =>
    refine ⟨hnodup, by simp [hfree], fun number hn => ?_⟩
    have h := hbelow number
    simp only [hfree, List.not_mem_nil, false_or, Set.mem_insert_iff] at h hn
    show number < pool.last + 1
    rcases hn with rfl | hn
    · exact Nat.lt_succ_self _
    · exact Nat.lt_succ_of_lt (h hn)
  · next number rest hfree =>
    rw [hfree] at hnodup hapart hbelow
    obtain ⟨hnumber, hrest⟩ := List.nodup_cons.mp hnodup
    refine ⟨hrest, fun other hother => ?_, fun other hother => hbelow other ?_⟩
    · have hne : other ≠ number := fun he => hnumber (he ▸ hother)
      simp [hne, hapart other (List.mem_cons_of_mem _ hother)]
    · simp only [List.mem_cons, Set.mem_insert_iff] at hother ⊢
      tauto

/-- Who holds less is guarded against as well. -/
theorem mono (h : pool.Guards held) {held' : Set Nat} (hless : held' ⊆ held) : pool.Guards held' where
  nodup := h.nodup
  apart number hn hheld := h.apart number hn (hless hheld)
  below number hn := h.below number (hn.imp_right fun hheld => hless hheld)

/-- Held numbers are given back, each of them once. -/
theorem release (h : pool.Guards held) {numbers : List Nat} (hnumbers : numbers.Nodup)
    (hheld : ∀ number ∈ numbers, number ∈ held) :
    (pool.release numbers).Guards (held \ {number | number ∈ numbers}) := by
  obtain ⟨hnodup, hapart, hbelow⟩ := h
  refine ⟨?_, fun number hn => ?_, fun number hn => hbelow number ?_⟩
  · refine List.nodup_append.mpr ⟨hnodup, hnumbers, ?_⟩
    intro a ha b hb hsame
    subst hsame
    exact hapart a ha (hheld a hb)
  · rcases List.mem_append.mp hn with hn | hn
    · exact fun hmem => hapart number hn hmem.1
    · exact fun hmem => hmem.2 hn
  · have hsub := hheld number
    simp only [Pool.release, List.mem_append, Set.mem_sdiff, Set.mem_ofPred_eq] at hn
    tauto

end Guards

end Pool

end OpenGrok
