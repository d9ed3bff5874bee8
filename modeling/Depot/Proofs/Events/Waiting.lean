import Depot.Dispatcher
import Mathlib.Data.Finset.Card
import Mathlib.Data.List.Nodup

/-!
# What waits

The waiting events as a map from records to lists of events: handing over adds to the
end of one list, delivery empties one.  A tidy dispatcher has one entry for each record
that has events waiting, and no other; every change keeps it so.
-/

set_option autoImplicit false

namespace Depot.Dispatcher

variable {T H E : Type}

/-- The events that the first entry of a record holds. -/
def held : List (Uuid × List E) → Uuid → List E
  | [], _ => []
  | (other, events) :: rest, id => if other = id then events else held rest id

theorem waiting_eq (dispatcher : Dispatcher T H E) (id : Uuid) :
    dispatcher.waiting id = held dispatcher.pending id := by
  unfold waiting
  induction dispatcher.pending with
  | nil => rfl
  | cons entry rest ih =>
    obtain ⟨other, events⟩ := entry
    by_cases here : other = id
    · simp [held, here]
    · simp only [held, if_neg here, ← ih]
      rw [List.find?_cons_of_neg (by simpa using here)]

/-! ## Entries -/

theorem held_append (id : Uuid) (events : List E) (pending : List (Uuid × List E)) (other : Uuid) :
    held (append id events pending) other =
      held pending other ++ if other = id then events else [] := by
  induction pending with
  | nil => by_cases same : other = id <;> simp [append, held, same, Ne.symm]
  | cons entry rest ih =>
    obtain ⟨key, waiting⟩ := entry
    by_cases here : key = id
    · subst here
      by_cases same : other = key
      · simp [append, held, same]
      · simp [append, held, same, Ne.symm same]
    · rw [append, if_neg here]
      by_cases found : key = other
      · have different : other ≠ id := found ▸ here
        simp [held, found, different]
      · simp only [held, if_neg found, ih]

theorem keys_append (id : Uuid) (events : List E) (pending : List (Uuid × List E)) :
    (append id events pending).map (·.1) =
      if id ∈ pending.map (·.1) then pending.map (·.1) else pending.map (·.1) ++ [id] := by
  induction pending with
  | nil => simp [append]
  | cons entry rest ih =>
    obtain ⟨key, waiting⟩ := entry
    by_cases here : key = id
    · simp [append, here]
    · rw [append, if_neg here, List.map_cons, ih]
      by_cases later : id ∈ rest.map (·.1)
      · have present : id ∈ ((key, waiting) :: rest).map (·.1) := .tail _ later
        rw [if_pos later, if_pos present, List.map_cons]
      · have absent : id ∉ ((key, waiting) :: rest).map (·.1) := by
          intro member
          rcases List.mem_cons.1 member with same | member
          · exact here same.symm
          · exact later member
        rw [if_neg later, if_neg absent, List.map_cons, List.cons_append]

theorem mem_append {id : Uuid} {events : List E} {pending : List (Uuid × List E)}
    {entry : Uuid × List E} (member : entry ∈ append id events pending) :
    entry ∈ pending ∨ ∃ before, entry.2 = before ++ events := by
  induction pending with
  | nil =>
    rw [append, List.mem_singleton] at member
    exact .inr ⟨[], by rw [member, List.nil_append]⟩
  | cons first rest ih =>
    obtain ⟨key, waiting⟩ := first
    rw [append] at member
    split at member
    · rcases List.mem_cons.1 member with rfl | later
      · exact .inr ⟨waiting, rfl⟩
      · exact .inl (.tail _ later)
    · rcases List.mem_cons.1 member with rfl | later
      · exact .inl (.head _)
      · exact (ih later).imp_left (.tail _)

theorem held_of_not_mem {id : Uuid} {pending : List (Uuid × List E)}
    (absent : id ∉ pending.map (·.1)) : held pending id = [] := by
  induction pending with
  | nil => rfl
  | cons entry rest ih =>
    obtain ⟨key, waiting⟩ := entry
    rw [List.map_cons, List.mem_cons, not_or] at absent
    rw [held, if_neg (Ne.symm absent.1), ih absent.2]

theorem held_ne_nil {id : Uuid} {pending : List (Uuid × List E)}
    (filled : ∀ entry ∈ pending, entry.2 ≠ []) (present : id ∈ pending.map (·.1)) :
    held pending id ≠ [] := by
  induction pending with
  | nil => cases present
  | cons entry rest ih =>
    obtain ⟨key, waiting⟩ := entry
    rw [held]
    split
    · exact filled (key, waiting) (.head _)
    · rename_i other
      have later : id ∈ rest.map (·.1) := (List.mem_cons.1 present).resolve_left (Ne.symm other)
      exact ih (fun entry member => filled entry (.tail _ member)) later

theorem held_dropFirst {pending : List (Uuid × List E)} (alone : (pending.map (·.1)).Nodup)
    (id other : Uuid) :
    held (dropFirst id pending) other = if other = id then [] else held pending other := by
  induction pending with
  | nil => simp [dropFirst, held]
  | cons entry rest ih =>
    obtain ⟨key, waiting⟩ := entry
    rw [List.map_cons, List.nodup_cons] at alone
    obtain ⟨single, restAlone⟩ := alone
    by_cases here : key = id
    · subst here
      rw [dropFirst, if_pos rfl]
      by_cases same : other = key
      · rw [if_pos same, same, held_of_not_mem single]
      · rw [if_neg same, held, if_neg (Ne.symm same)]
    · rw [dropFirst, if_neg here]
      by_cases found : key = other
      · have different : other ≠ id := found ▸ here
        rw [if_neg different, held, held, if_pos found, if_pos found]
      · rw [held, held, if_neg found, if_neg found, ih restAlone]

theorem dropFirst_sublist (id : Uuid) (pending : List (Uuid × List E)) :
    (dropFirst id pending).Sublist pending := by
  induction pending with
  | nil => exact .slnil
  | cons entry rest ih =>
    rw [dropFirst]
    split
    · exact .cons _ (.refl _)
    · exact ih.cons_cons _

theorem append_of_not_mem {id : Uuid} {events : List E} {pending : List (Uuid × List E)}
    (absent : id ∉ pending.map (·.1)) : append id events pending = pending ++ [(id, events)] := by
  induction pending with
  | nil => rfl
  | cons entry rest ih =>
    rw [List.map_cons, List.mem_cons, not_or] at absent
    rw [append, if_neg (Ne.symm absent.1), ih absent.2, List.cons_append]

theorem dropFirst_concat {id : Uuid} {events : List E} {pending : List (Uuid × List E)}
    (absent : id ∉ pending.map (·.1)) : dropFirst id (pending ++ [(id, events)]) = pending := by
  induction pending with
  | nil => exact if_pos rfl
  | cons entry rest ih =>
    rw [List.map_cons, List.mem_cons, not_or] at absent
    rw [List.cons_append, dropFirst, if_neg (Ne.symm absent.1), ih absent.2]

/-! ## Tidy dispatchers -/

/-- One entry for each record that has events waiting, and no other. -/
structure Tidy (dispatcher : Dispatcher T H E) : Prop where
  alone : (dispatcher.pending.map (·.1)).Nodup
  filled : ∀ entry ∈ dispatcher.pending, entry.2 ≠ []

variable {dispatcher : Dispatcher T H E}

theorem Tidy.of_empty (nothing : dispatcher.pending = []) : dispatcher.Tidy := by
  constructor
  · simp [nothing]
  · simp [nothing]

theorem Tidy.push (tidy : dispatcher.Tidy) (id : Uuid) (events : List E) :
    (dispatcher.push id events).Tidy := by
  unfold Dispatcher.push
  split
  · exact tidy
  · rename_i some
    constructor
    · dsimp only
      rw [keys_append]
      split
      · exact tidy.alone
      · rename_i absent
        exact List.nodup_append.2 ⟨tidy.alone, by simp, by
          intro key member last equal
          rw [List.mem_singleton.1 equal]
          rintro rfl
          exact absent member⟩
    · intro entry member
      rcases mem_append member with present | ⟨before, extended⟩
      · exact tidy.filled entry present
      · intro empty
        rw [extended, List.append_eq_nil_iff] at empty
        simp [empty.2] at some

theorem Tidy.enqueue (tidy : dispatcher.Tidy) (idOf : E → Uuid) (events : List E) :
    (dispatcher.enqueue idOf events).Tidy := by
  induction events generalizing dispatcher with
  | nil => exact tidy
  | cons event rest ih => exact ih (tidy.push (idOf event) [event])

theorem Tidy.release (tidy : dispatcher.Tidy) (id : Uuid) : (dispatcher.release id).Tidy := by
  have part := dropFirst_sublist id dispatcher.pending
  constructor
  · exact tidy.alone.sublist (part.map _)
  · intro entry member
    exact tidy.filled entry (part.subset member)

theorem Tidy.mem_keys_iff (tidy : dispatcher.Tidy) (id : Uuid) :
    id ∈ dispatcher.pending.map (·.1) ↔ dispatcher.waiting id ≠ [] := by
  rw [waiting_eq]
  constructor
  · exact held_ne_nil tidy.filled
  · intro some
    by_contra absent
    exact some (held_of_not_mem absent)

theorem isPending_iff_mem (dispatcher : Dispatcher T H E) (id : Uuid) :
    dispatcher.isPending id = true ↔ id ∈ dispatcher.pending.map (·.1) := by
  simp [isPending]

theorem not_mem_keys {id : Uuid} (idle : dispatcher.isPending id = false) :
    id ∉ dispatcher.pending.map (·.1) := by
  rw [← isPending_iff_mem, idle]
  exact Bool.false_ne_true

theorem waiting_of_idle {id : Uuid} (idle : dispatcher.isPending id = false) :
    dispatcher.waiting id = [] := by
  rw [waiting_eq, held_of_not_mem (not_mem_keys idle)]

/-- What a record lets wait for the first time is taken without a trace. -/
theorem release_push {id : Uuid} (idle : dispatcher.isPending id = false) (events : List E)
    (some : events ≠ []) : (dispatcher.push id events).release id = dispatcher := by
  have filled : events.isEmpty = false := by simpa using some
  rw [push, filled, release]
  simp only [Bool.false_eq_true, if_false, append_of_not_mem (not_mem_keys idle),
    dropFirst_concat (not_mem_keys idle)]

/-! ## The map -/

theorem waiting_push (dispatcher : Dispatcher T H E) (id : Uuid) (events : List E) (other : Uuid) :
    (dispatcher.push id events).waiting other =
      dispatcher.waiting other ++ if other = id then events else [] := by
  unfold push
  split
  · rename_i empty
    rw [List.isEmpty_iff] at empty
    simp [empty]
  · rw [waiting_eq, waiting_eq, held_append]

theorem waiting_enqueue (idOf : E → Uuid) (dispatcher : Dispatcher T H E) (events : List E)
    (id : Uuid) :
    (dispatcher.enqueue idOf events).waiting id =
      dispatcher.waiting id ++ events.filter (idOf · = id) := by
  induction events generalizing dispatcher with
  | nil => simp [enqueue]
  | cons event rest ih =>
    have first : dispatcher.enqueue idOf (event :: rest) =
        (dispatcher.push (idOf event) [event]).enqueue idOf rest := rfl
    rw [first, ih, waiting_push]
    by_cases here : idOf event = id
    · simp [here]
    · simp [here, Ne.symm here]

theorem Tidy.waiting_release (tidy : dispatcher.Tidy) (id other : Uuid) :
    (dispatcher.release id).waiting other =
      if other = id then [] else dispatcher.waiting other := by
  rw [waiting_eq, waiting_eq]
  exact held_dropFirst tidy.alone id other

end Depot.Dispatcher
