import Depot.Text.Blank
import Mathlib.Data.List.DropRight
import Mathlib.Data.List.TakeWhile

/-!
# Trimming

What is trimmed is a part of the whole in which neither end asks to be trimmed again, and
a text of that kind is trimmed to itself.
-/

set_option autoImplicit false

namespace Depot.Text

variable {p : Char → Bool} {cs : List Char}

/-- Neither end of a text satisfies `p`. -/
structure Trimmed (p : Char → Bool) (cs : List Char) : Prop where
  first : ∀ c ∈ cs.head?, p c = false
  last : ∀ c ∈ cs.getLast?, p c = false

theorem trimBy_isPrefix (p : Char → Bool) (cs : List Char) : trimBy p cs <+: cs.dropWhile p :=
  List.rdropWhile_prefix p _

theorem trimBy_isInfix (p : Char → Bool) (cs : List Char) : trimBy p cs <:+: cs :=
  (trimBy_isPrefix p cs).isInfix.trans (List.dropWhile_suffix p).isInfix

theorem exists_trimBy (p : Char → Bool) (cs : List Char) :
    ∃ front back, cs = front ++ (trimBy p cs ++ back) ∧ (∀ c ∈ front, p c = true) ∧
      ∀ c ∈ back, p c = true := by
  refine ⟨cs.takeWhile p, (cs.dropWhile p).rtakeWhile p, ?_, fun c => List.mem_takeWhile_imp, ?_⟩
  · have whole : trimBy p cs ++ (cs.dropWhile p).rtakeWhile p = cs.dropWhile p :=
      List.rdropWhile_append_rtakeWhile
    rw [whole, List.takeWhile_append_dropWhile]
  · intro c member
    exact List.mem_takeWhile_imp (List.mem_reverse.1 member)

theorem head?_dropWhile (p : Char → Bool) (cs : List Char) :
    ∀ c ∈ (cs.dropWhile p).head?, p c = false := by
  intro c first
  have stopped := List.head?_dropWhile_not p cs
  rw [Option.mem_def.1 first] at stopped
  exact stopped

theorem head?_of_isPrefix {part : List Char} (start : part <+: cs) :
    ∀ c ∈ part.head?, c ∈ cs.head? := by
  obtain ⟨rest, rfl⟩ := start
  intro c first
  cases part with
  | nil => cases first
  | cons other more => exact first

theorem trimmed_trimBy (p : Char → Bool) (cs : List Char) : Trimmed p (trimBy p cs) := by
  constructor
  · intro c first
    exact head?_dropWhile p cs c (head?_of_isPrefix (trimBy_isPrefix p cs) c first)
  · intro c last
    rw [trimBy, dropWhileEnd, List.getLast?_reverse] at last
    exact head?_dropWhile p _ c last

theorem dropWhile_eq_of_head? (first : ∀ c ∈ cs.head?, p c = false) : cs.dropWhile p = cs := by
  cases cs with
  | nil => rfl
  | cons c rest => rw [List.dropWhile_cons_of_neg (by simp [first c rfl])]

theorem Trimmed.trimBy_eq (trimmed : Trimmed p cs) : trimBy p cs = cs := by
  have last : ∀ c ∈ cs.reverse.head?, p c = false := by
    rw [List.head?_reverse]
    exact trimmed.last
  rw [trimBy, dropWhile_eq_of_head? trimmed.first, dropWhileEnd, dropWhile_eq_of_head? last,
    List.reverse_reverse]

theorem trim_trim (s : String) : trim (trim s) = trim s := by
  rw [trim, trim, String.toList_ofList, (trimmed_trimBy isBlank s.toList).trimBy_eq]

end Depot.Text
