import Depot.Number.Double
import Mathlib.Data.Nat.Log
import Mathlib.Data.Rat.Floor
import Mathlib.Tactic.FieldSimp
import Mathlib.Tactic.Linarith
import Mathlib.Tactic.Ring

/-!
# Rounding

A quotient goes to a whole number that none is nearer to; which one of two that are as near is the
only choice left.  What is shown here of the ways to round holds for either choice: they keep the
order, they take no notice of a common factor, and they give back what was whole before.  Keeping
the leading bits of a number is rounding to a multiple of a power of two, which is never off by more
than one part in `twoTo 53`.
-/

set_option autoImplicit false

namespace Depot

theorem twoTo_eq (bits : Nat) : twoTo bits = 2 ^ bits := Nat.one_shiftLeft bits

namespace Number

/-! ## To whole numbers -/

/-- No whole number is nearer to a quotient. -/
structure Nearest (num den whole : Nat) : Prop where
  notBelow : 2 * num ≤ 2 * (whole * den) + den
  notAbove : 2 * (whole * den) ≤ 2 * num + den

namespace Nearest

variable {num less more den whole low high : Nat}

theorem le_of_lt (below : Nearest less den low) (above : Nearest more den high)
    (lt : less < more) : low ≤ high := by
  by_contra bad
  have apart : high * den + den ≤ low * den := by
    rw [← Nat.succ_mul]
    exact Nat.mul_le_mul_right den (Nat.lt_of_not_le bad)
  have := below.notAbove
  have := above.notBelow
  omega

theorem eq_of_near (nearest : Nearest num den whole) {meant : Nat}
    (low : 2 * (meant * den) < 2 * num + den) (high : 2 * num < 2 * (meant * den) + den) :
    whole = meant := by
  have apart {less more : Nat} (lt : less < more) : less * den + den ≤ more * den := by
    rw [← Nat.succ_mul]
    exact Nat.mul_le_mul_right den lt
  have := nearest.notBelow
  have := nearest.notAbove
  rcases Nat.lt_trichotomy whole meant with lt | same | lt
  · have := apart lt
    omega
  · exact same
  · have := apart lt
    omega

end Nearest

/-- A way to round that gives a nearest whole number keeps the order. -/
theorem mono_of_nearest {round : Nat → Nat} {den : Nat} (nearest : ∀ num, Nearest num den (round num))
    {less more : Nat} (le : less ≤ more) : round less ≤ round more := by
  rcases Nat.lt_or_eq_of_le le with lt | rfl
  · exact (nearest less).le_of_lt (nearest more) lt
  · exact Nat.le_refl _

section Dividing

variable {less more den : Nat}

theorem divUp_nearest (positive : 0 < den) (num : Nat) : Nearest num den (divUp num den) := by
  have parts := Nat.div_add_mod (2 * num + den) (2 * den)
  have rest := Nat.mod_lt (2 * num + den) (show 0 < 2 * den by omega)
  have same : 2 * (divUp num den * den) = 2 * den * ((2 * num + den) / (2 * den)) := by
    rw [divUp]
    ring
  constructor <;> omega

theorem divEven_nearest (positive : 0 < den) (num : Nat) : Nearest num den (divEven num den) := by
  have parts := Nat.div_add_mod num den
  have rest := Nat.mod_lt num positive
  have same : num / den * den = den * (num / den) := Nat.mul_comm _ _
  have next : (num / den + 1) * den = num / den * den + den := Nat.succ_mul _ _
  simp only [divEven]
  split_ifs <;> constructor <;> omega

theorem divUp_mono (positive : 0 < den) (le : less ≤ more) : divUp less den ≤ divUp more den :=
  mono_of_nearest (divUp_nearest positive) le

theorem divEven_mono (positive : 0 < den) (le : less ≤ more) :
    divEven less den ≤ divEven more den := mono_of_nearest (divEven_nearest positive) le

theorem divUp_mul_self (positive : 0 < den) (whole : Nat) : divUp (whole * den) den = whole :=
  (divUp_nearest positive _).eq_of_near (by omega) (by omega)

theorem divEven_mul_self (positive : 0 < den) (whole : Nat) : divEven (whole * den) den = whole :=
  (divEven_nearest positive _).eq_of_near (by omega) (by omega)

theorem divUp_mul_mul {factor : Nat} (positive : 0 < factor) (num den : Nat) :
    divUp (num * factor) (den * factor) = divUp num den := by
  have above : 2 * (num * factor) + den * factor = (2 * num + den) * factor := by ring
  have below : 2 * (den * factor) = 2 * den * factor := by ring
  rw [divUp, above, below, Nat.mul_div_mul_right _ _ positive, divUp]

theorem divEven_mul_mul {factor : Nat} (positive : 0 < factor) (num den : Nat) :
    divEven (num * factor) (den * factor) = divEven num den := by
  have twice (n : Nat) : 2 * (n * factor) = 2 * n * factor := (Nat.mul_assoc 2 n factor).symm
  simp only [divEven, Nat.mul_div_mul_right _ _ positive, Nat.mul_mod_mul_right, twice,
    Nat.mul_lt_mul_right positive]

end Dividing

/-- Rounding up at a half is rounding of the rational number. -/
theorem divUp_eq_round (num den : Nat) (some : 0 < den) :
    (divUp num den : ℤ) = round ((num : ℚ) / den) := by
  have nonzero : (den : ℚ) ≠ 0 := by exact_mod_cast some.ne'
  have joined : (num : ℚ) / den + 1 / 2 = ((2 * num + den : ℕ) : ℚ) / (2 * den : ℕ) := by
    push_cast
    field_simp
  rw [round_eq, joined, Rat.floor_natCast_div_natCast, divUp]
  push_cast
  rfl

/-! ## To leading bits -/

/-- The bits that go when the leading ones are kept. -/
def spareBits (n : Nat) : Nat := n.log2 + 1 - 53

theorem log2_mono {less more : Nat} (le : less ≤ more) : less.log2 ≤ more.log2 := by
  simp only [Nat.log2_eq_log_two]
  exact Nat.log_mono_right le

theorem spareBits_mono {less more : Nat} (le : less ≤ more) : spareBits less ≤ spareBits more := by
  have := log2_mono le
  rw [spareBits, spareBits]
  omega

theorem lt_of_spareBits (n : Nat) : n < 2 ^ (53 + spareBits n) :=
  calc n < 2 ^ (n.log2 + 1) := Nat.lt_log2_self
    _ ≤ 2 ^ (53 + spareBits n) := Nat.pow_le_pow_right (by decide) (by rw [spareBits]; omega)

theorem le_of_spareBits {n : Nat} (spare : 0 < spareBits n) : 2 ^ 52 * 2 ^ spareBits n ≤ n := by
  have many : 52 + spareBits n = n.log2 := by
    rw [spareBits] at spare ⊢
    omega
  have nonzero : n ≠ 0 := by
    rintro rfl
    exact absurd spare (by decide)
  rw [← Nat.pow_add, many]
  exact Nat.log2_self_le nonzero

theorem keep53_eq (n : Nat) : keep53 n = divEven n (2 ^ spareBits n) * 2 ^ spareBits n := by
  simp only [keep53, spareBits]
  split_ifs with few
  · have kept := divEven_mul_self Nat.one_pos n
    rw [Nat.mul_one] at kept
    rw [Nat.sub_eq_zero_of_le few, Nat.pow_zero, kept, Nat.mul_one]
  · rw [twoTo_eq]

theorem keep53_nearest (n : Nat) :
    ∃ whole, keep53 n = whole * 2 ^ spareBits n ∧ Nearest n (2 ^ spareBits n) whole :=
  ⟨_, keep53_eq n, divEven_nearest (Nat.two_pow_pos _) n⟩

section Multiples

variable {n whole bits : Nat} (enough : spareBits n ≤ bits)

include enough

theorem keep53_le_of_le (le : n ≤ whole * 2 ^ bits) : keep53 n ≤ whole * 2 ^ bits := by
  obtain ⟨more, rfl⟩ := Nat.exists_eq_add_of_le' enough
  rw [Nat.pow_add, ← Nat.mul_assoc] at le ⊢
  rw [keep53_eq]
  refine Nat.mul_le_mul_right _ ?_
  calc divEven n (2 ^ spareBits n)
      ≤ divEven (whole * 2 ^ more * 2 ^ spareBits n) (2 ^ spareBits n) :=
        divEven_mono (Nat.two_pow_pos _) le
    _ = whole * 2 ^ more := divEven_mul_self (Nat.two_pow_pos _) _

theorem le_keep53_of_le (le : whole * 2 ^ bits ≤ n) : whole * 2 ^ bits ≤ keep53 n := by
  obtain ⟨more, rfl⟩ := Nat.exists_eq_add_of_le' enough
  rw [Nat.pow_add, ← Nat.mul_assoc] at le ⊢
  rw [keep53_eq]
  refine Nat.mul_le_mul_right _ ?_
  calc whole * 2 ^ more
      = divEven (whole * 2 ^ more * 2 ^ spareBits n) (2 ^ spareBits n) :=
        (divEven_mul_self (Nat.two_pow_pos _) _).symm
    _ ≤ divEven n (2 ^ spareBits n) := divEven_mono (Nat.two_pow_pos _) le

theorem keep53_of_multiple (multiple : n = whole * 2 ^ bits) : keep53 n = n := by
  refine Nat.le_antisymm ?_ ?_
  · exact (keep53_le_of_le enough multiple.le).trans multiple.ge
  · exact multiple.le.trans (le_keep53_of_le enough multiple.ge)

end Multiples

theorem keep53_of_lt {n : Nat} (short : n < 2 ^ 53) : keep53 n = n := by
  have none : spareBits n ≤ 0 := by
    by_contra some
    have := le_of_spareBits (Nat.lt_of_not_le some)
    have := Nat.pow_le_pow_right (show 0 < 2 by decide) (Nat.lt_of_not_le some)
    omega
  exact keep53_of_multiple none (Nat.mul_one n).symm

theorem keep53_mono {less more : Nat} (le : less ≤ more) : keep53 less ≤ keep53 more := by
  rcases Nat.lt_or_eq_of_le (spareBits_mono le) with fewer | same
  · -- a power of two, which is kept as it is, lies between them
    have between : less ≤ 1 * 2 ^ (52 + spareBits more) := by
      rw [Nat.one_mul]
      calc less ≤ 2 ^ (53 + spareBits less) := (lt_of_spareBits less).le
        _ ≤ 2 ^ (52 + spareBits more) := Nat.pow_le_pow_right (by decide) (by omega)
    calc keep53 less ≤ 1 * 2 ^ (52 + spareBits more) := keep53_le_of_le (by omega) between
      _ = 2 ^ 52 * 2 ^ spareBits more := by rw [Nat.one_mul, Nat.pow_add]
      _ ≤ keep53 more :=
        le_keep53_of_le (Nat.le_refl _) (le_of_spareBits (Nat.zero_lt_of_lt fewer))
  · rw [keep53_eq, keep53_eq, same]
    exact Nat.mul_le_mul_right _ (divEven_mono (Nat.two_pow_pos _) le)

theorem keep53_mul_pow (n bits : Nat) : keep53 (n * 2 ^ bits) = keep53 n * 2 ^ bits := by
  rcases Nat.eq_zero_or_pos n with rfl | positive
  · simp [keep53_of_lt]
  have longer : (n * 2 ^ bits).log2 = n.log2 + bits := by
    have nonzero : n * 2 ^ bits ≠ 0 := (Nat.mul_pos positive (Nat.two_pow_pos _)).ne'
    rw [Nat.log2_eq_iff nonzero, Nat.pow_add, Nat.add_right_comm, Nat.pow_add]
    exact ⟨Nat.mul_le_mul_right _ (Nat.log2_self_le positive.ne'),
      Nat.mul_lt_mul_of_pos_right Nat.lt_log2_self (Nat.two_pow_pos _)⟩
  by_cases short : n < 2 ^ 53
  · have fewer : spareBits (n * 2 ^ bits) ≤ bits := by
      have := (Nat.log2_lt positive.ne').2 short
      rw [spareBits, longer]
      omega
    rw [keep53_of_lt short, keep53_of_multiple fewer rfl]
  · have more : spareBits (n * 2 ^ bits) = spareBits n + bits := by
      have := (Nat.le_log2 positive.ne').2 (Nat.le_of_not_lt short)
      rw [spareBits, spareBits, longer]
      omega
    rw [keep53_eq, more, Nat.pow_add, divEven_mul_mul (Nat.two_pow_pos _), ← Nat.mul_assoc,
      ← keep53_eq]

theorem keep53_near (n : Nat) :
    2 ^ 53 * keep53 n ≤ 2 ^ 53 * n + n ∧ 2 ^ 53 * n ≤ 2 ^ 53 * keep53 n + n := by
  rcases Nat.eq_zero_or_pos (spareBits n) with none | some
  · have same : keep53 n = n := keep53_of_multiple none.le (Nat.mul_one n).symm
    rw [same]
    omega
  · obtain ⟨whole, kept, nearest⟩ := keep53_nearest n
    have := le_of_spareBits some
    have := nearest.notBelow
    have := nearest.notAbove
    rw [kept]
    constructor <;> omega

end Number

end Depot
