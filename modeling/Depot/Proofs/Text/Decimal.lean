import Depot.Proofs.Text.Literals

/-!
# Numbers read back as they were written

A written number has a minus if it is negative, and no other sign, and its digits have its value.  So
it has a form in which numbers are read, and reads back if it keeps the limits.
-/

set_option autoImplicit false

namespace Depot.Text

/-! ## Written numbers -/

theorem isDigit_of_mem_decimal {n : Nat} {c : Char} (member : c ∈ (decimal n).toList) :
    c.isDigit := by
  rw [decimal, String.toList_ofList] at member
  exact Nat.isDigit_of_mem_toDigits (by decide) (by decide) member

theorem isDigit_of_mem_padded {width n : Nat} {c : Char} (member : c ∈ (padded width n).toList) :
    c.isDigit := by
  simp only [padded, String.toList_ofList, List.mem_append, List.mem_replicate] at member
  rcases member with ⟨-, rfl⟩ | member
  · rfl
  · exact Nat.isDigit_of_mem_toDigits (by decide) (by decide) member

theorem mem_decimalInt {z : Int} {c : Char} (member : c ∈ (decimalInt z).toList) :
    c = '-' ∨ c.isDigit := by
  cases z with
  | ofNat n => exact .inr (isDigit_of_mem_decimal member)
  | negSucc n =>
    simp only [decimalInt, String.toList_append, List.mem_append] at member
    rcases member with sign | digit
    · exact .inl (by simpa using sign)
    · exact .inr (isDigit_of_mem_decimal digit)

/-! ## Reading them back -/

theorem digits_decimal (n : Nat) : Digits (decimal n).toList n :=
  ⟨by simp [decimal], fun _ => isDigit_of_mem_decimal, by simp [decimal]⟩

theorem digits_padded (width n : Nat) : Digits (padded width n).toList n :=
  ⟨by simp [padded], fun _ => isDigit_of_mem_padded, by simp [padded, Nat.ofDigitChars_append]⟩

theorem wholeForm_decimalInt (z : Int) : WholeForm (decimalInt z).toList z := by
  cases z with
  | ofNat n => exact .natural (.bare (digits_decimal n))
  | negSucc n =>
    have shape : (decimalInt (.negSucc n)).toList = '-' :: (decimal (n + 1)).toList := by
      simp [decimalInt]
    rw [shape]
    exact .minus (digits_decimal (n + 1))

theorem unsigned_padded {largest width n : Nat} (within : n ≤ largest) :
    unsigned largest (padded width n) = .ok n :=
  unsigned_eq_ok_iff.2 ⟨.bare (digits_padded width n), within⟩

theorem signed_decimalInt {largest : Nat} {z : Int} (low : -(largest + 1 : Int) ≤ z)
    (high : z ≤ largest) : signed largest (decimalInt z) = .ok z :=
  signed_eq_ok_iff.2 ⟨wholeForm_decimalInt z, low, high⟩

theorem decimalInt_inj {y z : Int} : decimalInt y = decimalInt z ↔ y = z := by
  constructor
  · intro same
    have first := @signed_decimalInt (max y.natAbs z.natAbs) y (by omega) (by omega)
    have second := @signed_decimalInt (max y.natAbs z.natAbs) z (by omega) (by omega)
    rw [same, second] at first
    exact (Except.ok.inj first).symm
  · intro same
    rw [same]

/-! ## The one way of writing -/

theorem decimalInt_eq_toString (z : Int) : decimalInt z = toString z := by
  cases z <;> rfl

theorem digit_bounds {c : Char} (isDigit : c.isDigit) : 48 ≤ c.toNat ∧ c.toNat ≤ 57 := by
  simp only [Char.isDigit, Bool.and_eq_true, decide_eq_true_eq] at isDigit
  exact isDigit

/-- Two runs of digits of the same length and value are the same, since the last digit is the rest
of the value by ten. -/
theorem digits_told {cs ds : List Char} (eachC : ∀ c ∈ cs, c.isDigit) (eachD : ∀ d ∈ ds, d.isDigit)
    (long : cs.length = ds.length) (same : Nat.ofDigitChars 10 cs 0 = Nat.ofDigitChars 10 ds 0) :
    cs = ds := by
  induction cs using List.reverseRecOn generalizing ds with
  | nil => exact (List.length_eq_zero_iff.1 long.symm).symm
  | append_singleton cs c ih =>
    obtain rfl | ⟨ds, d, rfl⟩ := List.eq_nil_or_concat ds
    · simp at long
    · simp only [List.concat_eq_append] at *
      have first := digit_bounds (eachC c (by simp))
      have second := digit_bounds (eachD d (by simp))
      simp only [Nat.ofDigitChars_append, Nat.ofDigitChars_cons, Nat.ofDigitChars_nil,
        Char.reduceToNat] at same
      have shorter : cs = ds :=
        ih (fun c member => eachC c (by simp [member])) (fun d member => eachD d (by simp [member]))
          (by simpa using long) (by omega)
      have last : c = d := Char.ext (UInt32.toNat_inj.1 (by simp only [Char.toNat] at *; omega))
      rw [shorter, last]

theorem eq_padded_two_iff {s : String} {n : Nat} (small : n < 100)
    (form : NaturalForm s.toList n) :
    s = padded 2 n ↔ s.length = 2 ∧ ∀ c ∈ s.toList, c.isDigit := by
  have length : (padded 2 n).length = 2 := by
    have two : ∀ n : Fin 100, (padded 2 n).length = 2 := by decide +kernel
    exact two ⟨n, small⟩
  constructor
  · rintro rfl
    exact ⟨length, fun _ => isDigit_of_mem_padded⟩
  · rintro ⟨long, each⟩
    have digits : Digits s.toList n := by
      generalize s.toList = cs at form each
      cases form with
      | bare digits => exact digits
      | plus digits => exact absurd (each '+' (.head _)) (by decide)
    rw [← String.toList_inj]
    have other := digits_padded 2 n
    refine digits_told each other.each ?_ (digits.value.trans other.value.symm)
    rw [String.length_toList, String.length_toList, long, length]

end Depot.Text
