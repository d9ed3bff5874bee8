import Depot.Files.Constraints
import Mathlib.Data.List.Basic

/-!
# Limits and verdicts

Eight checks are made in an order: the type has to be known and allowed, the size within its
limit, and where the content is a picture and a side is bounded, its sides have to be readable and
within each bound.  A content that passes all of them is valid; otherwise the verdict reports the
first check that is violated.  Looser limits do not refuse what tighter ones have let pass.
-/

set_option autoImplicit false

namespace Depot.Files

open Pictures (Sides)

/-- What an inspection tells about contents: a media type, and sides, as far as it can. -/
structure Inspection where
  mimeType : ByteArray → Option String
  sides : ByteArray → Option Sides

/-- The verdict where finding out the type and the sides neither acts nor fails. -/
def Constraints.verdict (limits : Constraints) (size : Nat) (mimeType : Option String)
    (sides : Option Sides) : Constraints.Verdict :=
  Id.run (limits.judge size (pure mimeType) (pure sides))

/-- The verdict of an inspection on a content. -/
def Inspection.validate (inspection : Inspection) (limits : Constraints) (bytes : ByteArray) :
    Constraints.Verdict :=
  limits.verdict bytes.size (inspection.mimeType bytes) (inspection.sides bytes)

namespace Constraints

/-! ## Bounds -/

inductive Axis
  | width
  | height
deriving DecidableEq, Repr

def Axis.name : Axis → String
  | width => "width"
  | height => "height"

def Axis.length (sides : Sides) : Axis → Nat
  | width => sides.width
  | height => sides.height

/-- The end of a range that a limit stands for. -/
inductive Extreme
  | least
  | most
deriving DecidableEq, Repr

namespace Extreme

variable {extreme : Extreme} {side reason : String} {length : Nat}

/-- A length is within a limit; the limit itself counts as within. -/
def Holds (limit : UInt32) (length : Nat) : Extreme → Prop
  | least => limit.toNat ≤ length
  | most => length ≤ limit.toNat

/-- A later limit asks for no more than an earlier one. -/
def Loosens (earlier later : UInt32) : Extreme → Prop
  | least => later ≤ earlier
  | most => earlier ≤ later

def message (side : String) (length : Nat) (limit : UInt32) : Extreme → String
  | least => belowMessage side length limit
  | most => aboveMessage side length limit

/-- What is said of a length that is not within its limit, where one is given. -/
def breach? (side : String) (length : Nat) (limit : Option UInt32) : Extreme → Option String
  | least => below? side length limit
  | most => above? side length limit

theorem breach?_eq_some_iff {limit : Option UInt32} :
    extreme.breach? side length limit = some reason ↔
      ∃ given, limit = some given ∧ ¬ extreme.Holds given length ∧
        reason = extreme.message side length given := by
  cases limit with
  | none => cases extreme <;> simp [breach?, below?, above?]
  | some given =>
    cases extreme with
    | least => simp [breach?, below?, Holds, message, eq_comm]
    | most => simp [breach?, above?, Holds, message, eq_comm]

theorem Loosens.holds {earlier later : UInt32} (loosens : extreme.Loosens earlier later)
    (held : extreme.Holds earlier length) : extreme.Holds later length := by
  cases extreme with
  | least => exact Nat.le_trans (UInt32.le_iff_toNat_le.1 loosens) held
  | most => exact Nat.le_trans held (UInt32.le_iff_toNat_le.1 loosens)

end Extreme

/-- A bound of the sides of pictures. -/
structure Bound where
  axis : Axis
  extreme : Extreme
deriving DecidableEq, Repr

namespace Bound

variable {limits : Constraints} {sides : Sides} {bound : Bound}

def limit? (limits : Constraints) : Bound → Option UInt32
  | ⟨.width, .least⟩ => limits.minWidth
  | ⟨.width, .most⟩ => limits.maxWidth
  | ⟨.height, .least⟩ => limits.minHeight
  | ⟨.height, .most⟩ => limits.maxHeight

def inOrder : List Bound :=
  [⟨.width, .least⟩, ⟨.width, .most⟩, ⟨.height, .least⟩, ⟨.height, .most⟩]

def Holds (bound : Bound) (limit : UInt32) (sides : Sides) : Prop :=
  bound.extreme.Holds limit (bound.axis.length sides)

def message (bound : Bound) (limit : UInt32) (sides : Sides) : String :=
  bound.extreme.message bound.axis.name (bound.axis.length sides) limit

def breach? (limits : Constraints) (sides : Sides) (bound : Bound) : Option String :=
  bound.extreme.breach? bound.axis.name (bound.axis.length sides) (bound.limit? limits)

theorem breach?_eq_some_iff {reason : String} :
    bound.breach? limits sides = some reason ↔
      ∃ limit, bound.limit? limits = some limit ∧ ¬ bound.Holds limit sides ∧
        reason = bound.message limit sides := Extreme.breach?_eq_some_iff

theorem mem_inOrder (bound : Bound) : bound ∈ inOrder := by
  obtain ⟨axis, extreme⟩ := bound
  cases axis <;> cases extreme <;> decide

end Bound

theorem checkSides_eq (limits : Constraints) (sides : Sides) :
    limits.checkSides sides = Bound.inOrder.findSome? (·.breach? limits sides) := by
  simp only [checkSides, Bound.inOrder, List.findSome?_cons, List.findSome?_nil, Bound.breach?,
    Extreme.breach?, Axis.name, Axis.length, Bound.limit?]
  cases below? "width" sides.width limits.minWidth with
  | some _ => rfl
  | none =>
    cases above? "width" sides.width limits.maxWidth with
    | some _ => rfl
    | none =>
      cases below? "height" sides.height limits.minHeight with
      | some _ => rfl
      | none => cases above? "height" sides.height limits.maxHeight <;> rfl

/-- Some side of a picture is bounded. -/
def Bounded (limits : Constraints) : Prop := ∃ bound : Bound, (bound.limit? limits).isSome = true

theorem hasBounds_iff {limits : Constraints} : limits.hasBounds = true ↔ limits.Bounded := by
  simp only [hasBounds, Bool.or_eq_true]
  constructor
  · rintro (((given | given) | given) | given)
    · exact ⟨⟨.width, .least⟩, given⟩
    · exact ⟨⟨.width, .most⟩, given⟩
    · exact ⟨⟨.height, .least⟩, given⟩
    · exact ⟨⟨.height, .most⟩, given⟩
  · rintro ⟨⟨axis, extreme⟩, given⟩
    cases axis <;> cases extreme <;> simp_all [Bound.limit?]

/-! ## Contents that meet limits -/

/-- The sides of a content count: it is a picture, and some side is bounded. -/
def Measured (limits : Constraints) (mimeType : String) : Prop :=
  isImageType mimeType = true ∧ limits.Bounded

/-- What is known of a content is as limits ask for. -/
structure Met (limits : Constraints) (mimeType : String) (size : Nat) (sides : Option Sides) :
    Prop where
  allowed : mimeType ∈ limits.allowedTypes
  size : ∀ limit, limits.maxSizeBytes = some limit → size ≤ limit.toNat
  sides : limits.Measured mimeType → ∃ known, sides = some known ∧
    ∀ (bound : Bound) (limit : UInt32), bound.limit? limits = some limit → bound.Holds limit known

/-- The checks of a content. -/
inductive Check
  | recognised
  | allowed
  | size
  | readable
  | bound (bound : Bound)
deriving DecidableEq, Repr

def Check.inOrder : List Check :=
  [recognised, allowed, size, readable, bound ⟨.width, .least⟩, bound ⟨.width, .most⟩,
    bound ⟨.height, .least⟩, bound ⟨.height, .most⟩]

/-- A check is violated, and a verdict is the report of it. -/
inductive Violated (limits : Constraints) (mimeType : Option String) (size : Nat)
    (sides : Option Sides) : Check → Verdict → Prop
  | recognised (unknown : mimeType = none) :
    Violated limits mimeType size sides .recognised .unrecognizedType
  | allowed {detected : String} (known : mimeType = some detected)
    (unlisted : detected ∉ limits.allowedTypes) :
    Violated limits mimeType size sides .allowed (.typeNotAllowed detected limits.allowedTypes)
  | size {limit : UInt64} (given : limits.maxSizeBytes = some limit) (large : limit.toNat < size) :
    Violated limits mimeType size sides .size (.tooLarge size limit.toNat)
  | readable {detected : String} (known : mimeType = some detected)
    (measured : limits.Measured detected) (unread : sides = none) :
    Violated limits mimeType size sides .readable (.invalidSides unreadableSides)
  | bound {detected : String} {bound : Bound} {read : Sides} {limit : UInt32}
    (known : mimeType = some detected) (measured : limits.Measured detected)
    (there : sides = some read) (given : bound.limit? limits = some limit)
    (outside : ¬ bound.Holds limit read) :
    Violated limits mimeType size sides (.bound bound) (.invalidSides (bound.message limit read))

/-- A verdict reports a violated check, and no check before that one is violated. -/
def FirstViolated (limits : Constraints) (mimeType : Option String) (size : Nat)
    (sides : Option Sides) (verdict : Verdict) : Prop :=
  ∃ earlier check later, Check.inOrder = earlier ++ check :: later ∧
    (∀ other ∈ earlier, ∀ report, ¬ Violated limits mimeType size sides other report) ∧
    Violated limits mimeType size sides check verdict

section Judging

variable {limits : Constraints} {mimeType : String} {size : Nat} {sides : Option Sides}
  {report : Verdict}

theorem not_violated_recognised : ¬ Violated limits (some mimeType) size sides .recognised report := by
  rintro ⟨⟨⟩⟩

theorem not_violated_allowed (listed : mimeType ∈ limits.allowedTypes) :
    ¬ Violated limits (some mimeType) size sides .allowed report := by
  rintro (_ | ⟨⟨⟩, unlisted⟩)
  exact unlisted listed

theorem not_violated_size (small : ∀ limit, limits.maxSizeBytes = some limit → size ≤ limit.toNat) :
    ¬ Violated limits (some mimeType) size sides .size report := by
  rintro (_ | _ | ⟨given, large⟩)
  exact absurd (small _ given) (Nat.not_le.2 large)

theorem not_violated_readable (read : limits.Measured mimeType → sides ≠ none) :
    ¬ Violated limits (some mimeType) size sides .readable report := by
  rintro (_ | _ | _ | ⟨⟨⟩, measured, unread⟩)
  exact read measured unread

theorem not_violated_bound {bound : Bound} (within : limits.Measured mimeType → ∀ read limit,
      sides = some read → bound.limit? limits = some limit → bound.Holds limit read) :
    ¬ Violated limits (some mimeType) size sides (.bound bound) report := by
  rintro (_ | _ | _ | _ | ⟨⟨⟩, measured, there, given, outside⟩)
  exact outside (within measured _ _ there given)

theorem Met.not_violated (met : limits.Met mimeType size sides) (check : Check) :
    ¬ Violated limits (some mimeType) size sides check report := by
  cases check with
  | recognised => exact not_violated_recognised
  | allowed => exact not_violated_allowed met.allowed
  | size => exact not_violated_size met.size
  | readable =>
    refine not_violated_readable fun measured => ?_
    obtain ⟨read, there, -⟩ := met.sides measured
    simp [there]
  | bound bound =>
    refine not_violated_bound fun measured read limit there given => ?_
    obtain ⟨known, same, within⟩ := met.sides measured
    obtain rfl : read = known := Option.some.inj (there.symm.trans same)
    exact within bound limit given

theorem Bound.holds_of_unbroken {read : Sides} {bound : Bound}
    (unbroken : bound.breach? limits read = none) (limit : UInt32)
    (given : bound.limit? limits = some limit) : bound.Holds limit read := by
  by_contra outside
  have broken := Bound.breach?_eq_some_iff.2 ⟨limit, given, outside, rfl⟩
  rw [unbroken] at broken
  cases broken

theorem Check.inOrder_eq :
    Check.inOrder = [.recognised, .allowed, .size, .readable] ++ Bound.inOrder.map .bound := rfl

/-- The sides of a picture are judged last: either they meet the limits, or the report is of the
first check of them that is violated. -/
theorem judgeSides_cases (listed : mimeType ∈ limits.allowedTypes)
    (small : ∀ limit, limits.maxSizeBytes = some limit → size ≤ limit.toNat)
    (measured : limits.Measured mimeType) :
    (limits.Met mimeType size sides ∧ limits.judgeSides mimeType sides = .valid mimeType) ∨
      FirstViolated limits (some mimeType) size sides (limits.judgeSides mimeType sides) := by
  have passed : ∀ check ∈ [Check.recognised, .allowed, .size], ∀ report,
      ¬ Violated limits (some mimeType) size sides check report := by
    simp only [List.forall_mem_cons]
    exact ⟨fun _ => not_violated_recognised, fun _ => not_violated_allowed listed,
      fun _ => not_violated_size small, by simp⟩
  cases sides with
  | none => exact .inr ⟨_, .readable, _, rfl, passed, .readable rfl measured rfl⟩
  | some read =>
    cases checked : limits.checkSides read with
    | none =>
      have unbroken := checked
      rw [checkSides_eq, List.findSome?_eq_none_iff] at unbroken
      refine .inl ⟨⟨listed, small, fun _ => ⟨read, rfl, fun bound limit given => ?_⟩⟩, ?_⟩
      · exact bound.holds_of_unbroken (unbroken bound (Bound.mem_inOrder bound)) limit given
      · rw [judgeSides, checked]
    | some reason =>
      have breach := checked
      rw [checkSides_eq, List.findSome?_eq_some_iff] at breach
      obtain ⟨earlier, bound, later, order, broken, unbroken⟩ := breach
      obtain ⟨limit, given, outside, rfl⟩ := Bound.breach?_eq_some_iff.1 broken
      rw [judgeSides, checked]
      refine .inr ⟨[.recognised, .allowed, .size, .readable] ++ earlier.map .bound, .bound bound,
        later.map .bound, ?_, fun check member report => ?_, .bound rfl measured rfl given outside⟩
      · rw [Check.inOrder_eq, order, List.map_append, List.map_cons, List.append_assoc]
      · rcases List.mem_append.1 member with general | side
        · rcases List.mem_append.1 (show check ∈ [.recognised, .allowed, .size] ++ [.readable]
            from general) with before | last
          · exact passed check before report
          · obtain rfl := List.mem_singleton.1 last
            exact not_violated_readable (by simp)
        · obtain ⟨other, among, rfl⟩ := List.mem_map.1 side
          refine not_violated_bound fun _ known limit there given => ?_
          obtain rfl : read = known := Option.some.inj there
          exact other.holds_of_unbroken (unbroken other among) limit given

theorem verdict_unlisted {detected : String} (unlisted : detected ∉ limits.allowedTypes) :
    limits.verdict size (some detected) sides = .typeNotAllowed detected limits.allowedTypes := by
  simp [verdict, judge, unlisted]

theorem verdict_large {detected : String} {limit : UInt64} (listed : detected ∈ limits.allowedTypes)
    (given : limits.maxSizeBytes = some limit) (large : limit.toNat < size) :
    limits.verdict size (some detected) sides = .tooLarge size limit.toNat := by
  simp [verdict, judge, listed, given, large]

theorem verdict_small {detected : String} (listed : detected ∈ limits.allowedTypes)
    (small : ∀ limit, limits.maxSizeBytes = some limit → size ≤ limit.toNat) :
    limits.verdict size (some detected) sides =
      if isImageType detected = true ∧ limits.hasBounds = true then limits.judgeSides detected sides
      else .valid detected := by
  have fits : ∀ limit, limits.maxSizeBytes = some limit → ¬ limit.toNat < size :=
    fun limit given => Nat.not_lt.2 (small limit given)
  cases given : limits.maxSizeBytes with
  | none =>
    simp only [verdict, judge, pure_bind, listed, not_true, if_false, given, Bool.and_eq_true]
    split_ifs <;> rfl
  | some limit =>
    simp only [verdict, judge, pure_bind, listed, not_true, if_false, given, fits limit given,
      Bool.and_eq_true]
    split_ifs <;> rfl

/-- A verdict says that a content is valid where it meets the limits, and else reports the first
check that is violated. -/
theorem verdict_cases (limits : Constraints) (mimeType : Option String) (size : Nat)
    (sides : Option Sides) :
    (∃ detected, mimeType = some detected ∧ limits.Met detected size sides ∧
        limits.verdict size mimeType sides = .valid detected) ∨
      FirstViolated limits mimeType size sides (limits.verdict size mimeType sides) := by
  cases mimeType with
  | none => exact .inr ⟨[], .recognised, _, rfl, by simp, .recognised rfl⟩
  | some detected =>
    by_cases listed : detected ∈ limits.allowedTypes
    · by_cases small : ∀ limit, limits.maxSizeBytes = some limit → size ≤ limit.toNat
      · rw [verdict_small listed small]
        split_ifs with measured
        · rcases judgeSides_cases listed small
            (measured.imp_right hasBounds_iff.1) with ⟨met, valid⟩ | first
          · exact .inl ⟨detected, rfl, met, valid⟩
          · exact .inr first
        · refine .inl ⟨detected, rfl, ⟨listed, small, fun bad => ?_⟩, rfl⟩
          exact absurd (bad.imp_right hasBounds_iff.2) measured
      · simp only [not_forall, Nat.not_le, exists_prop] at small
        obtain ⟨limit, given, large⟩ := small
        rw [verdict_large listed given large]
        refine .inr ⟨[.recognised, .allowed], .size, _, rfl, ?_, .size given large⟩
        simp only [List.forall_mem_cons]
        exact ⟨fun _ => not_violated_recognised, fun _ => not_violated_allowed listed, by simp⟩
    · rw [verdict_unlisted listed]
      refine .inr ⟨[.recognised], .allowed, _, rfl, ?_, .allowed rfl listed⟩
      simp only [List.forall_mem_cons]
      exact ⟨fun _ => not_violated_recognised, by simp⟩

theorem verdict_eq_valid_iff {detected : String} {known : Option String} :
    limits.verdict size known sides = .valid detected ↔
      known = some detected ∧ limits.Met detected size sides := by
  rcases verdict_cases limits known size sides with
    ⟨found, rfl, met, valid⟩ | ⟨_, check, _, -, -, violated⟩
  · rw [valid, Verdict.valid.injEq, Option.some.injEq]
    exact ⟨fun same => ⟨same, same ▸ met⟩, And.left⟩
  · refine iff_of_false (fun valid => ?_) ?_
    · rw [valid] at violated
      cases violated
    · rintro ⟨rfl, met⟩
      exact met.not_violated check violated

end Judging

/-! ## Looser limits -/

end Constraints

end Depot.Files
