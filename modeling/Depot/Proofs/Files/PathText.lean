import Depot.Files.Path
import Depot.Proofs.Text.Decimal

/-!
# Written paths

The first five slashes of a written path are its joints, since no part before the
name holds a slash and the name comes last.  So a written path reads back as the
path that it was written for, and different paths are written differently.  Months are
counted from 1 to 12 in every year, so that no time keeps a path from being made.
-/

set_option autoImplicit false

namespace Depot

/-! ## The months of a year -/

theorem Date.dayOfYear_le {dayOfEra yearOfEra : Nat} (within : dayOfEra < 146097)
    (year : yearOfEra =
      (dayOfEra - dayOfEra / 1460 + dayOfEra / 36524 - dayOfEra / 146096) / 365) :
    dayOfEra - (365 * yearOfEra + yearOfEra / 4 - yearOfEra / 100) ≤ 366 := by
  have leaps : dayOfEra / 1460 ≤ yearOfEra / 4 + 1 := by omega
  have centuries : yearOfEra / 100 ≤ dayOfEra / 36524 := by omega
  have last : dayOfEra / 146096 ≤ 1 := by omega
  omega

theorem Date.month_ofDays (days : Int) :
    1 ≤ (Date.ofDays days).month ∧ (Date.ofDays days).month ≤ 12 := by
  unfold ofDays
  extract_lets shifted era dayOfEra yearOfEra dayOfYear fromMarch day month year
  -- the remainder of the division lies in one era, and its last year is the longest
  have within : dayOfEra < 146097 := by
    have era_eq : era = shifted / 146097 := Int.fdiv_eq_ediv_of_nonneg shifted (by decide)
    omega
  have ends : dayOfYear ≤ 366 := dayOfYear_le within rfl
  have march : fromMarch ≤ 11 := by omega
  change 1 ≤ month ∧ month ≤ 12
  simp only [month]
  split_ifs <;> omega

namespace Files

theorem isSegment_iff (s : String) : isSegment s = true ↔ s ≠ "" ∧ '/' ∉ s.toList := by
  simp only [isSegment, Bool.and_eq_true, Bool.not_eq_true', String.isEmpty_eq_false_iff,
    List.all_eq_true, decide_eq_true_eq]
  refine and_congr_right fun _ => ⟨fun each member => each '/' member rfl, ?_⟩
  rintro absent c member rfl
  exact absent member

/-- What the parts of a path without fault are like. -/
theorem checkPath_eq_none_iff (environment : String) (month : Nat)
    (entityType entityId filename : String) :
    checkPath environment month entityType entityId filename = none ↔
      (1 ≤ month ∧ month ≤ 12) ∧ isSegment environment = true ∧ isSegment entityType = true ∧
        isSegment entityId = true ∧ filename ≠ "" := by
  have inside : (1 ≤ month ∧ month ≤ 12) ↔ ¬(month < 1 ∨ 12 < month) := by omega
  rw [inside]
  unfold checkPath
  split_ifs <;> simp_all

namespace Path

theorem noSlash_environment (path : Path) : '/' ∉ path.environment.toList :=
  ((isSegment_iff _).1 ((checkPath_eq_none_iff ..).1 path.sound).2.1).2

theorem noSlash_entityType (path : Path) : '/' ∉ path.entityType.toList :=
  ((isSegment_iff _).1 ((checkPath_eq_none_iff ..).1 path.sound).2.2.1).2

theorem noSlash_entityId (path : Path) : '/' ∉ path.entityId.toList :=
  ((isSegment_iff _).1 ((checkPath_eq_none_iff ..).1 path.sound).2.2.2.1).2

theorem month_le (path : Path) : path.month ≤ 12 :=
  ((checkPath_eq_none_iff ..).1 path.sound).1.2

theorem noSlash_year (path : Path) : '/' ∉ (Text.decimalInt path.year.toInt).toList := by
  intro member
  rcases Text.mem_decimalInt member with sign | isDigit
  · exact absurd sign (by decide)
  · exact absurd isDigit (by decide)

theorem noSlash_month (path : Path) : '/' ∉ (Text.padded 2 path.month).toList := fun member =>
  absurd (Text.isDigit_of_mem_padded member) (by decide)

/-! ## Cutting at the joints -/

theorem cut_append (count : Nat) (part rest : List Char) (noSlash : '/' ∉ part) :
    cut (count + 1) (part ++ '/' :: rest) = part :: cut count rest := by
  induction part with
  | nil => simp [cut]
  | cons c part ih =>
    simp only [List.mem_cons, not_or] at noSlash
    simp [cut, Ne.symm noSlash.1, ih noSlash.2]

theorem cut_text (path : Path) :
    (cut 5 path.text.toList).map String.ofList =
      [path.environment, Text.decimalInt path.year.toInt, Text.padded 2 path.month,
        path.entityType, path.entityId, path.filename] := by
  have joined : path.text.toList =
      path.environment.toList ++ '/' :: ((Text.decimalInt path.year.toInt).toList ++
        '/' :: ((Text.padded 2 path.month).toList ++ '/' :: (path.entityType.toList ++
          '/' :: (path.entityId.toList ++ '/' :: path.filename.toList)))) := by
    simp [text, List.append_assoc]
  rw [joined, cut_append _ _ _ path.noSlash_environment, cut_append _ _ _ path.noSlash_year,
    cut_append _ _ _ path.noSlash_month, cut_append _ _ _ path.noSlash_entityType,
    cut_append _ _ _ path.noSlash_entityId]
  simp [cut]

theorem make_eq_ok (path : Path) :
    make path.environment path.year path.month path.entityType path.entityId path.filename =
      .ok path := by
  have sound := path.sound
  unfold make
  split
  · rfl
  · rename_i fault fails
    rw [sound] at fails
    contradiction

theorem year_bounds (year : Int32) :
    -(Text.maxInt32 + 1 : Int) ≤ year.toInt ∧ year.toInt ≤ Text.maxInt32 := by
  have low := year.le_toInt
  have high := year.toInt_lt
  simp only [Text.maxInt32]
  constructor <;> omega

theorem parse_text (path : Path) : parse path.text = .ok path := by
  have year := Text.signed_decimalInt (year_bounds path.year).1 (year_bounds path.year).2
  have month : Text.unsigned Text.maxWord32 (Text.padded 2 path.month) = .ok path.month :=
    Text.unsigned_padded (path.month_le.trans (by decide))
  unfold parse
  rw [cut_text]
  simp only [year, month, Int32.ofInt_toInt]
  exact path.make_eq_ok

theorem text_injective : Function.Injective text := by
  intro first second same
  have read := congrArg parse same
  rw [parse_text, parse_text] at read
  exact Except.ok.inj read

theorem text_ne_empty (path : Path) : path.text ≠ "" := by
  intro empty
  have lists := congrArg String.toList empty
  simp [text] at lists

theorem text_inj {first second : Path} : first.text = second.text ↔ first = second :=
  text_injective.eq_iff

end Path

/-! ## What keeps a path from being made -/

theorem make_of_check {environment : String} {year : Int32} {month : Nat}
    {entityType entityId filename : String} {fault : PathFault}
    (check : checkPath environment month entityType entityId filename = some fault) :
    Path.make environment year month entityType entityId filename = .error fault := by
  unfold Path.make
  split
  · rename_i sound
    rw [check] at sound
    contradiction
  · rename_i other found
    rw [check] at found
    rw [Option.some.inj found]

theorem make_eq_error_iff {environment : String} {year : Int32} {month : Nat}
    {entityType entityId filename : String} {fault : PathFault} :
    Path.make environment year month entityType entityId filename = .error fault ↔
      checkPath environment month entityType entityId filename = some fault := by
  refine ⟨fun failed => ?_, make_of_check⟩
  unfold Path.make at failed
  split at failed
  · cases failed
  · rename_i other found
    rw [found, Except.error.inj failed]

/-- What is wrong with an owner or a filename, if no path is made of them. -/
inductive Misfit (owner : Owner) (filename : String) : PathFault → Prop
  | entityType (unfit : isSegment owner.entityType = false) :
    Misfit owner filename (.segment "entity type")
  | entityId (unfit : isSegment owner.entityId = false) :
    Misfit owner filename (.segment "entity id")
  | filename (empty : filename = "") : Misfit owner filename .emptyName

/-- In an environment that is a part of paths, only the owner and the filename can be at fault. -/
theorem misfit_of_build {owner : Owner} {filename environment : String} {time : Instant}
    {fault : PathFault} (segment : isSegment environment = true)
    (failed : Path.build owner filename environment time = .error fault) :
    Misfit owner filename fault := by
  have check := make_eq_error_iff.1 failed
  have month := Date.month_ofDays (Int.fdiv time.seconds 86400)
  have inside : ¬(time.date.month < 1 ∨ 12 < time.date.month) := by
    simp only [Instant.date]
    omega
  simp only [checkPath, if_neg inside, segment, Bool.not_true, Bool.false_eq_true, if_false,
    Bool.not_eq_true'] at check
  split_ifs at check with kind id empty
  · obtain rfl := Option.some.inj check
    exact .entityType kind
  · obtain rfl := Option.some.inj check
    exact .entityId id
  · obtain rfl := Option.some.inj check
    exact .filename (String.isEmpty_iff.1 empty)

end Files

end Depot
