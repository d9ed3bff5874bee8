import Mathlib.Data.List.Nodup
import Mathlib.Logic.Function.Basic

/-!
# Entries under keys

Lists of entries that are read with `List.lookup`, as maps: putting an entry over the one of
its key, and taking out the entries of a key.  Keys stay distinct when an entry with a new
one is added.
-/

set_option autoImplicit false

namespace Depot

theorem nodup_map_concat {α κ : Type} {key : α → κ} {entries : List α} {last : α}
    (keys : (entries.map key).Nodup) (new : ∀ other ∈ entries, key other ≠ key last) :
    ((entries ++ [last]).map key).Nodup := by
  rw [List.map_append, List.map_singleton, List.nodup_append]
  refine ⟨keys, List.nodup_singleton _, ?_⟩
  intro taken member own here
  obtain ⟨other, present, rfl⟩ := List.mem_map.1 member
  rw [List.mem_singleton.1 here]
  exact new other present

variable {κ ν : Type} [DecidableEq κ] [BEq κ] [LawfulBEq κ]

theorem lookup_put (put : List (κ × ν) → List (κ × ν)) {key : κ} {value : ν}
    (last : put [] = [(key, value)])
    (first : ∀ entry rest, put (entry :: rest) =
      if entry.1 = key then (key, value) :: rest else entry :: put rest)
    (entries : List (κ × ν)) :
    (fun other => (put entries).lookup other) =
      Function.update (entries.lookup ·) key (some value) := by
  funext other
  induction entries with
  | nil =>
    by_cases same : other = key
    · simp [last, same]
    · simp [last, same, List.lookup_cons, beq_eq_false_iff_ne.2 same]
  | cons entry rest ih =>
    obtain ⟨found, old⟩ := entry
    by_cases here : found = key
    · subst here
      by_cases same : other = found
      · simp [first, same]
      · simp [first, same, List.lookup_cons, beq_eq_false_iff_ne.2 same]
    · by_cases same : other = found
      · subst same
        simp [first, here]
      · simp only [first, here, if_false, List.lookup_cons, beq_eq_false_iff_ne.2 same, ih]
        by_cases target : other = key
        · simp [target]
        · simp [target, beq_eq_false_iff_ne.2 same]

theorem lookup_filter_ne (key : κ) (entries : List (κ × ν)) :
    (fun other => (entries.filter (·.1 ≠ key)).lookup other) =
      Function.update (entries.lookup ·) key none := by
  funext other
  induction entries with
  | nil => by_cases same : other = key <;> simp [same]
  | cons entry rest ih =>
    obtain ⟨found, value⟩ := entry
    by_cases same : other = key
    · subst same
      simp only [Function.update_self] at ih ⊢
      by_cases here : found = other
      · simpa [here] using ih
      · simpa [here, List.lookup_cons, beq_eq_false_iff_ne.2 (Ne.symm here)] using ih
    · simp only [Function.update_of_ne same] at ih ⊢
      by_cases here : found = key
      · subst here
        simpa [List.lookup_cons, beq_eq_false_iff_ne.2 same] using ih
      · by_cases hit : other = found
        · subst hit
          simp [here]
        · simpa [here, List.lookup_cons, beq_eq_false_iff_ne.2 hit] using ih

end Depot
