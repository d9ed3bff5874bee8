import Depot.Text.Literal
import Mathlib.Tactic.Positivity

/-!
# What is read as a whole number

A number is written with at most one sign and then one or more digits; a minus stands only before
numbers that may be negative.  Digits are read from the left with a running value, which is refused
as soon as it passes the limit.  It never falls, so that exactly those numbers are read whose whole
value keeps the limit.
-/

set_option autoImplicit false

namespace Depot.Text

variable {cs : List Char} {n : Nat}

/-! ## The forms of numbers -/

/-- One or more digits and their value. -/
structure Digits (cs : List Char) (n : Nat) : Prop where
  given : cs ≠ []
  each : ∀ c ∈ cs, c.isDigit
  value : Nat.ofDigitChars 10 cs 0 = n

/-- A number that is not negative, with a plus or without. -/
inductive NaturalForm : List Char → Nat → Prop
  | bare {cs : List Char} {n : Nat} (digits : Digits cs n) : NaturalForm cs n
  | plus {cs : List Char} {n : Nat} (digits : Digits cs n) : NaturalForm ('+' :: cs) n

/-- A number of either sign. -/
inductive WholeForm : List Char → Int → Prop
  | natural {cs : List Char} {n : Nat} (form : NaturalForm cs n) : WholeForm cs n
  | minus {cs : List Char} {n : Nat} (digits : Digits cs n) : WholeForm ('-' :: cs) (-n)

theorem Digits.first {c : Char} (digits : Digits (c :: cs) n) : c ≠ '+' ∧ c ≠ '-' := by
  have isDigit := digits.each c (.head _)
  constructor <;> rintro rfl <;> exact absurd isDigit (by decide)

theorem wholeForm_minus_iff {z : Int} :
    WholeForm ('-' :: cs) z ↔ ∃ n : Nat, Digits cs n ∧ -(n : Int) = z := by
  constructor
  · rintro (⟨⟨digits⟩⟩ | digits)
    · exact absurd rfl digits.first.2
    · exact ⟨_, digits, rfl⟩
  · rintro ⟨n, digits, rfl⟩
    exact .minus digits

theorem wholeForm_iff {z : Int} (noMinus : cs.head? ≠ some '-') :
    WholeForm cs z ↔ ∃ n : Nat, NaturalForm cs n ∧ (n : Int) = z := by
  constructor
  · rintro (form | digits)
    · exact ⟨_, form, rfl⟩
    · exact absurd rfl noMinus
  · rintro ⟨n, form, rfl⟩
    exact .natural form

/-! ## Runs of digits -/

theorem digit?_eq_some_iff {c : Char} {d : Nat} :
    digit? c = some d ↔ c.isDigit ∧ c.toNat - '0'.toNat = d := by
  have bounds : c.isDigit = true ↔ '0' ≤ c ∧ c ≤ '9' := by
    simp only [Char.isDigit, Bool.and_eq_true, decide_eq_true_eq]
    exact Iff.rfl
  rw [digit?, Option.ite_none_right_eq_some, bounds, Option.some_inj]
  exact Iff.rfl

theorem le_ofDigitChars (cs : List Char) (value : Nat) : value ≤ Nat.ofDigitChars 10 cs value := by
  rw [Nat.ofDigitChars_eq_ofDigitChars_zero]
  have scaled : value ≤ 10 ^ cs.length * value := Nat.le_mul_of_pos_left value (by positivity)
  omega

/-- What is read are the digits whose value, behind the value so far, keeps the limit. -/
theorem magnitude_eq_ok_iff {largest value : Nat} {excess : LiteralFault}
    (within : value ≤ largest) :
    magnitude largest excess value cs = .ok n ↔
      (∀ c ∈ cs, c.isDigit) ∧ Nat.ofDigitChars 10 cs value = n ∧ n ≤ largest := by
  induction cs generalizing value with
  | nil =>
    rw [magnitude, Except.ok.injEq]
    constructor
    · rintro rfl
      exact ⟨by simp, rfl, within⟩
    · rintro ⟨-, same, -⟩
      exact same
  | cons c rest ih =>
    rw [magnitude, List.forall_mem_cons]
    cases read : digit? c with
    | none =>
      have stray : ¬ c.isDigit := fun isDigit => by
        rw [digit?_eq_some_iff.2 ⟨isDigit, rfl⟩] at read
        cases read
      simp [stray]
    | some d =>
      obtain ⟨isDigit, rfl⟩ := digit?_eq_some_iff.1 read
      rw [Nat.ofDigitChars_cons]
      dsimp only
      split_ifs with small
      · rw [ih small, and_assoc, and_iff_right isDigit]
      · -- past the limit the value only grows
        have grows := le_ofDigitChars rest (10 * value + (c.toNat - '0'.toNat))
        constructor
        · rintro ⟨⟩
        · rintro ⟨-, rfl, keeps⟩
          omega

theorem magnitude_eq_ok_iff_digits {largest : Nat} {excess : LiteralFault} (given : cs ≠ []) :
    magnitude largest excess 0 cs = .ok n ↔ Digits cs n ∧ n ≤ largest := by
  rw [magnitude_eq_ok_iff (Nat.zero_le _)]
  constructor
  · rintro ⟨each, value, keeps⟩
    exact ⟨⟨given, each, value⟩, keeps⟩
  · rintro ⟨digits, keeps⟩
    exact ⟨digits.each, digits.value, keeps⟩

/-! ## Reading -/

theorem unsigned_of_plus {largest : Nat} {s : String} (given : cs ≠ [])
    (shape : s.toList = '+' :: cs) :
    unsigned largest s = magnitude largest .tooLarge 0 cs := by
  obtain ⟨c, rest, rfl⟩ := List.exists_cons_of_ne_nil given
  rw [unsigned, shape]
  rfl

theorem unsigned_of_bare {largest : Nat} {s : String} {c : Char} (noPlus : c ≠ '+')
    (shape : s.toList = c :: cs) :
    unsigned largest s = magnitude largest .tooLarge 0 (c :: cs) := by
  unfold unsigned
  rw [shape]
  split <;> simp_all

/-- The texts that are read as numbers up to a limit. -/
theorem unsigned_eq_ok_iff {largest : Nat} {s : String} :
    unsigned largest s = .ok n ↔ NaturalForm s.toList n ∧ n ≤ largest := by
  cases shape : s.toList with
  | nil =>
    rw [unsigned, shape]
    constructor
    · rintro ⟨⟩
    · rintro ⟨⟨digits⟩, -⟩
      exact absurd rfl digits.given
  | cons c rest =>
    by_cases plus : c = '+'
    · subst plus
      by_cases given : rest = []
      · rw [unsigned, shape, given]
        constructor
        · rintro ⟨⟩
        · rintro ⟨digits | digits, -⟩
          · exact absurd rfl digits.first.1
          · exact absurd rfl digits.given
      · rw [unsigned_of_plus given shape, magnitude_eq_ok_iff_digits given]
        refine and_congr_left fun _ => ⟨.plus, ?_⟩
        rintro (digits | digits)
        · exact absurd rfl digits.first.1
        · exact digits
    · rw [unsigned_of_bare plus shape, magnitude_eq_ok_iff_digits (List.cons_ne_nil _ _)]
      refine and_congr_left fun _ => ⟨.bare, ?_⟩
      rintro (digits | digits)
      · exact digits
      · exact absurd rfl plus

theorem signed_of_minus {largest : Nat} {s : String} (given : cs ≠ [])
    (shape : s.toList = '-' :: cs) :
    signed largest s =
      (magnitude (largest + 1) .tooSmall 0 cs).map fun n => -Int.ofNat n := by
  obtain ⟨c, rest, rfl⟩ := List.exists_cons_of_ne_nil given
  rw [signed, shape]
  rfl

/-- Without a minus, numbers of either sign are read like the others. -/
theorem signed_eq_unsigned {largest : Nat} {s : String} (noMinus : s.toList.head? ≠ some '-') :
    signed largest s = (unsigned largest s).map Int.ofNat := by
  unfold signed unsigned
  split <;> simp_all [Except.map]

/-- The texts that are read as numbers of either sign, within the limits of a word. -/
theorem signed_eq_ok_iff {largest : Nat} {s : String} {z : Int} :
    signed largest s = .ok z ↔
      WholeForm s.toList z ∧ -(largest + 1 : Int) ≤ z ∧ z ≤ largest := by
  have map_eq_ok_iff {read : Except LiteralFault Nat} {f : Nat → Int} :
      read.map f = .ok z ↔ ∃ n, read = .ok n ∧ f n = z := by
    cases read <;> simp [Except.map]
  by_cases minus : s.toList.head? = some '-'
  · obtain ⟨rest, shape⟩ := List.head?_eq_some_iff.1 minus
    rw [shape, wholeForm_minus_iff]
    by_cases given : rest = []
    · rw [signed, shape, given]
      constructor
      · rintro ⟨⟩
      · rintro ⟨⟨n, digits, -⟩, -⟩
        exact absurd rfl digits.given
    · rw [signed_of_minus given shape, map_eq_ok_iff]
      constructor
      · rintro ⟨n, read, rfl⟩
        obtain ⟨digits, keeps⟩ := (magnitude_eq_ok_iff_digits given).1 read
        exact ⟨⟨n, digits, rfl⟩, by simp only [Int.ofNat_eq_natCast]; omega,
          by simp only [Int.ofNat_eq_natCast]; omega⟩
      · rintro ⟨⟨n, digits, rfl⟩, low, -⟩
        exact ⟨n, (magnitude_eq_ok_iff_digits given).2 ⟨digits, by omega⟩, rfl⟩
  · rw [signed_eq_unsigned minus, wholeForm_iff minus, map_eq_ok_iff]
    constructor
    · rintro ⟨n, read, rfl⟩
      obtain ⟨form, keeps⟩ := unsigned_eq_ok_iff.1 read
      exact ⟨⟨n, form, rfl⟩, by simp only [Int.ofNat_eq_natCast]; omega,
        by simp only [Int.ofNat_eq_natCast]; omega⟩
    · rintro ⟨⟨n, form, rfl⟩, -, high⟩
      exact ⟨n, unsigned_eq_ok_iff.2 ⟨form, by omega⟩, rfl⟩

end Depot.Text
