import Depot.Pictures.Plan
import Depot.Proofs.Number.Rounding

/-!
# The laws of scaling

What a plan needs of a way to scale lengths is little: a whole becomes its part, nothing grows, and
of two ratios the smaller one never gives more.  Both ways to scale keep these laws, the exact one
for all lengths and the one with 53 bits for lengths of 32 bits, although there a ratio and a
product are each off by a little.
-/

set_option autoImplicit false

namespace Depot.Pictures.Scaling

open Number

/-- No length becomes longer by one ratio than by another. -/
def Below (s : Scaling) (low high : s.Ratio) : Prop :=
  ∀ length, s.scale low length ≤ s.scale high length

/-- Two ratios can be told apart: one is the smaller of them, and the other is the larger. -/
inductive Ordered (s : Scaling) (one other : s.Ratio) : Prop
  | ascending (below : s.Below one other) (smaller : s.smaller one other = one)
    (larger : s.larger one other = other)
  | descending (below : s.Below other one) (smaller : s.smaller one other = other)
    (larger : s.larger one other = one)

/-- The laws of scaling for sides up to some length. -/
structure Lawful (s : Scaling) (longest : Nat) : Prop where
  ordered : ∀ (part part' : Nat) {whole whole' : Nat}, 0 < whole → 0 < whole' →
    s.Ordered (s.ratio part whole) (s.ratio part' whole')
  restores : ∀ {part whole : Nat}, part ≤ whole → 0 < whole → whole ≤ longest →
    s.scale (s.ratio part whole) whole = part
  shrinks : ∀ {part whole length : Nat}, part ≤ whole → 0 < whole → whole ≤ longest →
    length ≤ longest → s.scale (s.ratio part whole) length ≤ length
  keeps : ∀ {length : Nat}, length ≤ longest → s.scale (s.ratio 1 1) length = length

/-! ## Exact ratios -/

theorem exact_below {a b : Nat × Nat} (low : 0 < a.2) (high : 0 < b.2)
    (le : a.1 * b.2 ≤ b.1 * a.2) : exact.Below a b := by
  intro length
  calc divUp (length * a.1) a.2
      = divUp (length * a.1 * b.2) (a.2 * b.2) := (divUp_mul_mul high _ _).symm
    _ ≤ divUp (length * b.1 * a.2) (a.2 * b.2) := by
        rw [Nat.mul_assoc, Nat.mul_assoc]
        exact divUp_mono (Nat.mul_pos low high) (Nat.mul_le_mul_left _ le)
    _ = divUp (length * b.1) b.2 := by rw [Nat.mul_comm a.2, divUp_mul_mul low]

theorem exact_lawful (longest : Nat) : exact.Lawful longest where
  ordered := by
    intro part part' whole whole' low high
    by_cases le : part * whole' ≤ part' * whole
    · exact .ascending (exact_below low high le) (if_pos le) (if_pos le)
    · exact .descending (exact_below high low (Nat.le_of_not_le le)) (if_neg le) (if_neg le)
  restores := by
    intro part whole _ some _
    show divUp (whole * part) whole = part
    rw [Nat.mul_comm, divUp_mul_self some]
  shrinks := by
    intro part whole length le some _ _
    calc divUp (length * part) whole ≤ divUp (length * whole) whole :=
          divUp_mono some (Nat.mul_le_mul_left _ le)
      _ = length := divUp_mul_self some length
  keeps := by
    intro length _
    exact divUp_mul_self Nat.one_pos length

/-- An exact length is the length times the ratio as a rational number, rounded. -/
theorem exact_scale_eq_round (part whole length : Nat) (some : 0 < whole) :
    (exact.scale (part, whole) length : ℤ) = round ((length * part : ℚ) / whole) := by
  show (divUp (length * part) whole : ℤ) = _
  rw [divUp_eq_round _ _ some]
  push_cast
  rfl

/-! ## Ratios of 53 bits -/

section Kept

variable {a b : Double}

theorem double_below (le : a.le b = true) : double.Below a b := by
  intro length
  have crossed : a.mantissa * 2 ^ b.shift ≤ b.mantissa * 2 ^ a.shift := by
    simpa only [Double.le, decide_eq_true_eq, twoTo_eq] using le
  show divUp (keep53 (a.mantissa * length)) (twoTo a.shift) ≤
    divUp (keep53 (b.mantissa * length)) (twoTo b.shift)
  rw [twoTo_eq, twoTo_eq]
  calc divUp (keep53 (a.mantissa * length)) (2 ^ a.shift)
      = divUp (keep53 (a.mantissa * length * 2 ^ b.shift)) (2 ^ a.shift * 2 ^ b.shift) := by
        rw [keep53_mul_pow, divUp_mul_mul (Nat.two_pow_pos _)]
    _ ≤ divUp (keep53 (b.mantissa * length * 2 ^ a.shift)) (2 ^ a.shift * 2 ^ b.shift) := by
        refine divUp_mono (Nat.mul_pos (Nat.two_pow_pos _) (Nat.two_pow_pos _)) (keep53_mono ?_)
        rw [Nat.mul_right_comm, Nat.mul_right_comm b.mantissa]
        exact Nat.mul_le_mul_right _ crossed
    _ = divUp (keep53 (b.mantissa * length)) (2 ^ b.shift) := by
        rw [keep53_mul_pow, Nat.mul_comm (2 ^ a.shift), divUp_mul_mul (Nat.two_pow_pos _)]

theorem double_ordered (a b : Double) : double.Ordered a b := by
  by_cases le : a.le b = true
  · exact .ascending (double_below le) (if_pos le) (if_pos le)
  · have other : b.le a = true := by
      simp only [Double.le, decide_eq_true_eq] at le ⊢
      omega
    exact .descending (double_below other) (if_neg le) (if_neg le)

end Kept

/-- A ratio of a part and its whole is next to a fraction of at least 52 binary places. -/
theorem quotient_eq {part whole : Nat} (some : 0 < part) (le : part ≤ whole) :
    ∃ places, 52 ≤ places ∧ Double.quotient part whole =
      ⟨keep53 (divEven (part * 2 ^ places) whole), places⟩ := by
  have longer := log2_mono le
  simp only [Double.quotient, if_neg some.ne', twoTo_eq]
  split_ifs
  · exact ⟨53 + (whole.log2 + 1) - (part.log2 + 1), by omega, rfl⟩
  · exact ⟨52 + (whole.log2 + 1) - (part.log2 + 1), by omega, rfl⟩

theorem scale_double (mantissa shift length : Nat) :
    double.scale ⟨mantissa, shift⟩ length = divUp (keep53 (mantissa * length)) (2 ^ shift) := by
  rw [← twoTo_eq]
  rfl

theorem scale_double_zero (whole length : Nat) : double.scale (double.ratio 0 whole) length = 0 := by
  show double.scale ⟨0, 0⟩ length = 0
  rw [scale_double, Nat.zero_mul]
  rfl

theorem double_restores {part whole : Nat} (le : part ≤ whole) (short : whole ≤ 2 ^ 32) :
    double.scale (double.ratio part whole) whole = part := by
  rcases Nat.eq_zero_or_pos part with rfl | some
  · exact scale_double_zero whole whole
  obtain ⟨places, many, ratio⟩ := quotient_eq some le
  show double.scale (Double.quotient part whole) whole = part
  rw [ratio, scale_double]
  -- three roundings; the first is off by half a whole at most, the other two by next to nothing
  have first := divEven_nearest (some.trans_le le) (part * 2 ^ places)
  have second := keep53_near (divEven (part * 2 ^ places) whole)
  have third := keep53_near (keep53 (divEven (part * 2 ^ places) whole) * whole)
  generalize divEven (part * 2 ^ places) whole = rounded at *
  have secondAbove := Nat.mul_le_mul_right whole second.1
  have secondBelow := Nat.mul_le_mul_right whole second.2
  rw [Nat.add_mul, Nat.mul_assoc, Nat.mul_assoc] at secondAbove secondBelow
  have fine : 2 ^ 52 ≤ 2 ^ places := Nat.pow_le_pow_right (by decide) many
  have small : part * 2 ^ places ≤ 2 ^ 32 * 2 ^ places :=
    Nat.mul_le_mul_right _ (le.trans short)
  have firstBelow := first.notBelow
  have firstAbove := first.notAbove
  refine (divUp_nearest (Nat.two_pow_pos _) _).eq_of_near ?_ ?_ <;> omega

theorem double_shrinks {part whole length : Nat} (le : part ≤ whole) (short : length < 2 ^ 53) :
    double.scale (double.ratio part whole) length ≤ length := by
  rcases Nat.eq_zero_or_pos part with rfl | some
  · exact (scale_double_zero whole length).trans_le length.zero_le
  obtain ⟨places, -, ratio⟩ := quotient_eq some le
  show double.scale (Double.quotient part whole) length ≤ length
  rw [ratio, scale_double]
  have positive := some.trans_le le
  have atMostOne : keep53 (divEven (part * 2 ^ places) whole) ≤ 2 ^ places :=
    calc keep53 (divEven (part * 2 ^ places) whole)
        ≤ keep53 (divEven (2 ^ places * whole) whole) := by
          refine keep53_mono (divEven_mono positive ?_)
          rw [Nat.mul_comm _ whole]
          exact Nat.mul_le_mul_right _ le
      _ = keep53 (1 * 2 ^ places) := by rw [divEven_mul_self positive, Nat.one_mul]
      _ = 2 ^ places := by rw [keep53_mul_pow, keep53_of_lt (by decide), Nat.one_mul]
  calc divUp (keep53 (keep53 (divEven (part * 2 ^ places) whole) * length)) (2 ^ places)
      ≤ divUp (keep53 (length * 2 ^ places)) (2 ^ places) := by
        refine divUp_mono (Nat.two_pow_pos _) (keep53_mono ?_)
        rw [Nat.mul_comm length]
        exact Nat.mul_le_mul_right _ atMostOne
    _ = length := by
        rw [keep53_mul_pow, keep53_of_lt short, divUp_mul_self (Nat.two_pow_pos _)]

theorem double_keeps {length : Nat} (short : length < 2 ^ 53) :
    double.scale (double.ratio 1 1) length = length := by
  show double.scale ⟨2 ^ 52, 52⟩ length = length
  rw [scale_double, Nat.mul_comm, keep53_mul_pow, keep53_of_lt short,
    divUp_mul_self (Nat.two_pow_pos _)]

theorem double_lawful : double.Lawful (2 ^ 32) where
  ordered _ _ _ _ _ _ := double_ordered _ _
  restores le _ short := double_restores le short
  shrinks le _ _ short := double_shrinks le (by omega)
  keeps short := double_keeps (by omega)

end Depot.Pictures.Scaling
