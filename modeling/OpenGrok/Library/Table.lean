import Mathlib.Data.List.AList

/-! Finite tables.

A `Table κ α` is an association list without repeated keys: `lookup`, `insert`
and `erase` are Mathlib's, and the two facts below say what a lookup sees after
an update at any key, so that a proof splits on the keys and nothing else.
`insertAll` fills a table from a list, and `last` says what it then holds. -/
namespace OpenGrok

/-- A finite map with an iteration order. -/
abbrev Table (κ α : Type) := AList (fun _ : κ => α)

namespace Table
variable {κ α : Type} [DecidableEq κ]

@[simp] theorem lookup_insert_ite (t : Table κ α) (k k' : κ) (v : α) :
    AList.lookup k' (AList.insert k v t) = if k' = k then some v else AList.lookup k' t := by
  by_cases h : k' = k
  · subst h
    rw [if_pos rfl, AList.lookup_insert]
  · rw [if_neg h, AList.lookup_insert_ne h]

@[simp] theorem lookup_erase_ite (t : Table κ α) (k k' : κ) :
    AList.lookup k' (AList.erase k t) = if k' = k then none else AList.lookup k' t := by
  by_cases h : k' = k
  · subst h
    rw [if_pos rfl, AList.lookup_erase]
  · rw [if_neg h, AList.lookup_erase_ne h]

@[simp] theorem lookup_singleton (k k' : κ) (v : α) :
    AList.lookup k' (AList.singleton k v : Table κ α) = if k' = k then some v else none := by
  rw [← AList.insert_empty, lookup_insert_ite, AList.lookup_empty]

/-- Inserts the entries one after the other. -/
def insertAll (entries : List (κ × α)) (t : Table κ α) : Table κ α :=
  entries.foldl (fun t e => AList.insert e.1 e.2 t) t

/-- What the last entry for the key says. -/
def last (entries : List (κ × α)) (k : κ) : Option α :=
  (entries.reverse.find? fun e => e.1 = k).map Prod.snd

theorem last_append (first second : List (κ × α)) (k : κ) :
    last (first ++ second) k = (last second k).or (last first k) := by
  simp only [last, List.reverse_append, List.find?_append]
  cases second.reverse.find? fun e => e.1 = k <;> simp

/-- A table filled from a list says what the list says last. -/
theorem lookup_insertAll (entries : List (κ × α)) (t : Table κ α) (k : κ) :
    (insertAll entries t).lookup k = (last entries k).or (t.lookup k) := by
  induction entries generalizing t with
  | nil => rfl
  | cons e rest ih =>
    have h := ih (AList.insert e.1 e.2 t)
    rw [insertAll, List.foldl_cons, ← insertAll, h, lookup_insert_ite, ← List.singleton_append,
      last_append, Option.or_assoc]
    by_cases hk : k = e.1
    · simp [last, hk]
    · simp [last, hk, Ne.symm hk]

theorem last_ne_none {entries : List (κ × α)} {k : κ} :
    last entries k ≠ none ↔ ∃ e ∈ entries, e.1 = k := by
  simp [last, Option.map_eq_none_iff]

theorem mem_of_lookup {t : Table κ α} {k : κ} {v : α} (h : t.lookup k = some v) : k ∈ t := by
  rw [← AList.lookup_isSome, h]
  rfl

theorem lookup_of_mem {t : Table κ α} {k : κ} (h : k ∈ t) : ∃ v, t.lookup k = some v :=
  Option.isSome_iff_exists.mp (AList.lookup_isSome.mpr h)

end Table

end OpenGrok
