import Depot.Proofs.Files.PathText

/-!
# The texts that are read as paths

A text is cut at its first five slashes, if it has as many.  What stands between them is checked in
a fixed order, which is not the order of the parts: first the numbers, then the places that must not
be empty.  So either all parts are as they have to be, or there is a first fault, and reading says
which.  What is read is written back the same if the numbers were written in the one way of writing.
-/

set_option autoImplicit false

namespace Depot.Files

open Depot.Text (NaturalForm WholeForm)

/-! ## The parts of a text -/

/-- What stands before, between and behind five slashes. -/
structure PathParts where
  environment : String
  year : String
  month : String
  entityType : String
  entityId : String
  filename : String

def PathParts.joined (parts : PathParts) : String :=
  parts.environment ++ "/" ++ parts.year ++ "/" ++ parts.month ++ "/" ++ parts.entityType ++ "/" ++
    parts.entityId ++ "/" ++ parts.filename

/-- The parts of a text, where the joints are its first slashes. -/
structure CutInto (s : String) (parts : PathParts) : Prop where
  joined : s = parts.joined
  environment : '/' ∉ parts.environment.toList
  year : '/' ∉ parts.year.toList
  month : '/' ∉ parts.month.toList
  entityType : '/' ∉ parts.entityType.toList
  entityId : '/' ∉ parts.entityId.toList

variable {s : String} {parts : PathParts}

theorem CutInto.cut (cutInto : CutInto s parts) :
    (Path.cut 5 s.toList).map String.ofList =
      [parts.environment, parts.year, parts.month, parts.entityType, parts.entityId,
        parts.filename] := by
  have joined : s.toList =
      parts.environment.toList ++ '/' :: (parts.year.toList ++ '/' :: (parts.month.toList ++
        '/' :: (parts.entityType.toList ++ '/' :: (parts.entityId.toList ++
          '/' :: parts.filename.toList)))) := by
    rw [cutInto.joined]
    simp [PathParts.joined, List.append_assoc]
  rw [joined, Path.cut_append _ _ _ cutInto.environment, Path.cut_append _ _ _ cutInto.year,
    Path.cut_append _ _ _ cutInto.month, Path.cut_append _ _ _ cutInto.entityType,
    Path.cut_append _ _ _ cutInto.entityId]
  simp [Path.cut]

theorem exists_joint {cs : List Char} {count : Nat} (enough : count + 1 ≤ cs.count '/') :
    ∃ part rest, cs = part ++ '/' :: rest ∧ '/' ∉ part ∧ count ≤ rest.count '/' := by
  have member : '/' ∈ cs := List.count_pos_iff.1 (by omega)
  obtain ⟨part, rest, rfl, noSlash⟩ := List.eq_append_cons_of_mem member
  rw [List.count_append, List.count_eq_zero_of_not_mem noSlash, List.count_cons_self] at enough
  exact ⟨part, rest, rfl, noSlash, by omega⟩

theorem exists_cutInto (enough : 5 ≤ s.toList.count '/') : ∃ parts, CutInto s parts := by
  obtain ⟨environment, rest, shape, noSlash, enough⟩ := exists_joint enough
  obtain ⟨year, rest, rfl, noSlashYear, enough⟩ := exists_joint enough
  obtain ⟨month, rest, rfl, noSlashMonth, enough⟩ := exists_joint enough
  obtain ⟨entityType, rest, rfl, noSlashType, enough⟩ := exists_joint enough
  obtain ⟨entityId, filename, rfl, noSlashId, -⟩ := exists_joint enough
  refine ⟨⟨.ofList environment, .ofList year, .ofList month, .ofList entityType, .ofList entityId,
    .ofList filename⟩, ?_, ?_, ?_, ?_, ?_, ?_⟩
  · rw [← String.toList_inj, shape]
    simp [PathParts.joined, List.append_assoc]
  all_goals simpa only [String.toList_ofList]

theorem CutInto.enough (cutInto : CutInto s parts) : 5 ≤ s.toList.count '/' := by
  rw [cutInto.joined]
  simp only [PathParts.joined, String.toList_append, List.count_append]
  have joint : "/".toList.count '/' = 1 := by decide
  omega

theorem length_cut (count : Nat) (cs : List Char) :
    (Path.cut count cs).length = min count (cs.count '/') + 1 := by
  fun_induction Path.cut count cs with
  | case1 => simp
  | case2 => simp
  | case3 count cs ih => simp [ih]
  | case4 count c cs other empty ih => simp [empty] at ih
  | case5 count c cs other part rest shape ih =>
    rw [shape] at ih
    rw [List.count_cons_of_ne other, ← ih]
    rfl

theorem parse_of_few (few : s.toList.count '/' < 5) : Path.parse s = .error (.tooFewParts s) := by
  have length := length_cut 5 s.toList
  unfold Path.parse
  split
  · rename_i shape
    have six := congrArg List.length shape
    simp only [List.length_map, List.length_cons, List.length_nil] at six
    omega
  · rfl

/-! ## What the parts have to be -/

/-- A text of a year: a whole number of thirty-two bits. -/
structure YearForm (text : String) (year : Int) : Prop where
  form : WholeForm text.toList year
  low : -2147483648 ≤ year
  high : year ≤ 2147483647

/-- A text that is read for a month: a number of thirty-two bits that is not negative. -/
structure MonthForm (text : String) (month : Nat) : Prop where
  form : NaturalForm text.toList month
  high : month ≤ 4294967295

namespace PathParts

/-- The numbers are given, and the month is one of a year. -/
structure Dated (parts : PathParts) (year : Int) (month : Nat) : Prop where
  yearForm : YearForm parts.year year
  monthForm : MonthForm parts.month month
  inYear : 1 ≤ month ∧ month ≤ 12

/-- All parts are as they have to be. -/
structure Sound (parts : PathParts) (year : Int) (month : Nat) : Prop where
  dated : parts.Dated year month
  environment : parts.environment ≠ ""
  entityType : parts.entityType ≠ ""
  entityId : parts.entityId ≠ ""
  filename : parts.filename ≠ ""

/-- The first fault of the parts of a text. Each comes with what was checked before it. -/
inductive Fails (parts : PathParts) (s : String) : PathFault → Prop
  | year (unread : ∀ year, ¬ YearForm parts.year year) : Fails parts s (.year s)
  | month {year : Int} (dated : YearForm parts.year year)
      (unread : ∀ month, ¬ MonthForm parts.month month) : Fails parts s (.month s)
  | monthRange {year : Int} {month : Nat} (dated : YearForm parts.year year)
      (read : MonthForm parts.month month) (outside : month < 1 ∨ 12 < month) :
      Fails parts s (.monthRange month)
  | environment {year : Int} {month : Nat} (dated : parts.Dated year month)
      (empty : parts.environment = "") : Fails parts s (.segment "environment")
  | entityType {year : Int} {month : Nat} (dated : parts.Dated year month)
      (environment : parts.environment ≠ "") (empty : parts.entityType = "") :
      Fails parts s (.segment "entity type")
  | entityId {year : Int} {month : Nat} (dated : parts.Dated year month)
      (environment : parts.environment ≠ "") (entityType : parts.entityType ≠ "")
      (empty : parts.entityId = "") : Fails parts s (.segment "entity id")
  | filename {year : Int} {month : Nat} (dated : parts.Dated year month)
      (environment : parts.environment ≠ "") (entityType : parts.entityType ≠ "")
      (entityId : parts.entityId ≠ "") (empty : parts.filename = "") :
      Fails parts s .emptyName

theorem sound_or_fails (parts : PathParts) (s : String) :
    (∃ year month, parts.Sound year month) ∨ ∃ fault, parts.Fails s fault := by
  -- in the order in which the parts are checked
  by_cases dated : ∃ year, YearForm parts.year year
  swap
  · exact .inr ⟨_, .year (not_exists.1 dated)⟩
  obtain ⟨year, dated⟩ := dated
  by_cases read : ∃ month, MonthForm parts.month month
  swap
  · exact .inr ⟨_, .month dated (not_exists.1 read)⟩
  obtain ⟨month, read⟩ := read
  by_cases inYear : 1 ≤ month ∧ month ≤ 12
  swap
  · exact .inr ⟨_, .monthRange dated read (by omega)⟩
  have dated : parts.Dated year month := ⟨dated, read, inYear⟩
  by_cases environment : parts.environment = ""
  · exact .inr ⟨_, .environment dated environment⟩
  by_cases entityType : parts.entityType = ""
  · exact .inr ⟨_, .entityType dated environment entityType⟩
  by_cases entityId : parts.entityId = ""
  · exact .inr ⟨_, .entityId dated environment entityType entityId⟩
  by_cases filename : parts.filename = ""
  · exact .inr ⟨_, .filename dated environment entityType entityId filename⟩
  · exact .inl ⟨year, month, dated, environment, entityType, entityId, filename⟩

end PathParts

/-! ## Reading -/

theorem signed_eq_ok_iff_yearForm {text : String} {year : Int} :
    Text.signed Text.maxInt32 text = .ok year ↔ YearForm text year := by
  rw [Text.signed_eq_ok_iff]
  constructor
  · rintro ⟨form, low, high⟩
    exact ⟨form, by simpa [Text.maxInt32] using low, by simpa [Text.maxInt32] using high⟩
  · rintro ⟨form, low, high⟩
    exact ⟨form, by simpa [Text.maxInt32] using low, by simpa [Text.maxInt32] using high⟩

theorem unsigned_eq_ok_iff_monthForm {text : String} {month : Nat} :
    Text.unsigned Text.maxWord32 text = .ok month ↔ MonthForm text month := by
  rw [Text.unsigned_eq_ok_iff]
  exact ⟨fun ⟨form, high⟩ => ⟨form, high⟩, fun ⟨form, high⟩ => ⟨form, high⟩⟩

theorem error_of_unread {ε α : Type} {read : Except ε α} (unread : ∀ value, read ≠ .ok value) :
    ∃ fault, read = .error fault := by
  cases read with
  | error fault => exact ⟨fault, rfl⟩
  | ok value => exact absurd rfl (unread value)

theorem parse_of_dates {year : Int} {month : Nat} (cutInto : CutInto s parts)
    (dated : YearForm parts.year year) (read : MonthForm parts.month month) :
    Path.parse s =
      Path.make parts.environment (Int32.ofInt year) month parts.entityType parts.entityId
        parts.filename := by
  unfold Path.parse
  rw [cutInto.cut]
  simp only [signed_eq_ok_iff_yearForm.2 dated, unsigned_eq_ok_iff_monthForm.2 read]

theorem isSegment_eq_decide {part : String} (noSlash : '/' ∉ part.toList) :
    isSegment part = decide (part ≠ "") := by
  rw [Bool.eq_iff_iff, isSegment_iff, decide_eq_true_eq]
  exact and_iff_left noSlash

theorem CutInto.checkPath_eq {month : Nat} (cutInto : CutInto s parts)
    (inYear : 1 ≤ month ∧ month ≤ 12) :
    checkPath parts.environment month parts.entityType parts.entityId parts.filename =
      if parts.environment = "" then some (.segment "environment")
      else if parts.entityType = "" then some (.segment "entity type")
      else if parts.entityId = "" then some (.segment "entity id")
      else if parts.filename = "" then some .emptyName
      else none := by
  have inside : ¬(month < 1 ∨ 12 < month) := by omega
  simp only [checkPath, if_neg inside, isSegment_eq_decide cutInto.environment,
    isSegment_eq_decide cutInto.entityType, isSegment_eq_decide cutInto.entityId,
    String.isEmpty_iff, Bool.not_eq_true', decide_eq_false_iff_not, not_not]

theorem parse_of_fails {fault : PathFault} (cutInto : CutInto s parts)
    (fails : parts.Fails s fault) : Path.parse s = .error fault := by
  cases fails with
  | year unread =>
    obtain ⟨fault, read⟩ := error_of_unread fun year read =>
      unread year (signed_eq_ok_iff_yearForm.1 read)
    unfold Path.parse
    rw [cutInto.cut]
    simp only [read]
  | month dated unread =>
    obtain ⟨fault, read⟩ := error_of_unread fun month read =>
      unread month (unsigned_eq_ok_iff_monthForm.1 read)
    unfold Path.parse
    rw [cutInto.cut]
    simp only [signed_eq_ok_iff_yearForm.2 dated, read]
  | monthRange dated read outside =>
    rw [parse_of_dates cutInto dated read]
    exact make_of_check (if_pos outside)
  | environment dated empty =>
    rw [parse_of_dates cutInto dated.yearForm dated.monthForm]
    exact make_of_check ((cutInto.checkPath_eq dated.inYear).trans (if_pos empty))
  | entityType dated environment empty =>
    rw [parse_of_dates cutInto dated.yearForm dated.monthForm]
    refine make_of_check ((cutInto.checkPath_eq dated.inYear).trans ?_)
    rw [if_neg environment, if_pos empty]
  | entityId dated environment entityType empty =>
    rw [parse_of_dates cutInto dated.yearForm dated.monthForm]
    refine make_of_check ((cutInto.checkPath_eq dated.inYear).trans ?_)
    rw [if_neg environment, if_neg entityType, if_pos empty]
  | filename dated environment entityType entityId empty =>
    rw [parse_of_dates cutInto dated.yearForm dated.monthForm]
    refine make_of_check ((cutInto.checkPath_eq dated.inYear).trans ?_)
    rw [if_neg environment, if_neg entityType, if_neg entityId, if_pos empty]

/-- The path that has the parts of a text. -/
structure PathParts.Told (parts : PathParts) (path : Path) : Prop where
  sound : parts.Sound path.year.toInt path.month
  environment : path.environment = parts.environment
  entityType : path.entityType = parts.entityType
  entityId : path.entityId = parts.entityId
  filename : path.filename = parts.filename

theorem parse_of_sound {year : Int} {month : Nat} (cutInto : CutInto s parts)
    (sound : parts.Sound year month) : ∃ path, Path.parse s = .ok path ∧ parts.Told path := by
  have check :
      checkPath parts.environment month parts.entityType parts.entityId parts.filename = none := by
    rw [cutInto.checkPath_eq sound.dated.inYear, if_neg sound.environment, if_neg sound.entityType,
      if_neg sound.entityId, if_neg sound.filename]
  let path : Path := ⟨parts.environment, Int32.ofInt year, month, parts.entityType,
    parts.entityId, parts.filename, check⟩
  have yearOf : path.year.toInt = year :=
    Int32.toInt_ofInt_of_le sound.dated.yearForm.low (by have := sound.dated.yearForm.high; omega)
  refine ⟨path, ?_, ?_, rfl, rfl, rfl, rfl⟩
  · rw [parse_of_dates cutInto sound.dated.yearForm sound.dated.monthForm]
    exact path.make_eq_ok
  · rw [yearOf]
    exact sound

theorem told_of_parse {path : Path} (cutInto : CutInto s parts) (read : Path.parse s = .ok path) :
    parts.Told path := by
  obtain ⟨year, month, sound⟩ | ⟨fault, fails⟩ := parts.sound_or_fails s
  · obtain ⟨other, same, told⟩ := parse_of_sound cutInto sound
    rw [read] at same
    cases same
    exact told
  · rw [parse_of_fails cutInto fails] at read
    cases read

theorem fails_of_parse {fault : PathFault} (cutInto : CutInto s parts)
    (refused : Path.parse s = .error fault) : parts.Fails s fault := by
  obtain ⟨year, month, sound⟩ | ⟨other, fails⟩ := parts.sound_or_fails s
  · obtain ⟨path, read, -⟩ := parse_of_sound cutInto sound
    rw [read] at refused
    cases refused
  · rw [parse_of_fails cutInto fails] at refused
    cases refused
    exact fails

/-! ## Writing again -/

/-- A text is written again as it was if its year is the number and its month has two digits. -/
theorem text_eq_iff {path : Path} (cutInto : CutInto s parts) (told : parts.Told path) :
    path.text = s ↔
      parts.year = toString path.year.toInt ∧
        parts.month.length = 2 ∧ ∀ c ∈ parts.month.toList, c.isDigit := by
  have small : path.month < 100 := by have := path.month_le; omega
  rw [← Text.eq_padded_two_iff small told.sound.dated.monthForm.form,
    ← Text.decimalInt_eq_toString]
  constructor
  · intro same
    have pieces := path.cut_text
    rw [same, cutInto.cut] at pieces
    simp only [List.cons.injEq] at pieces
    exact ⟨pieces.2.1, pieces.2.2.1⟩
  · rintro ⟨year, month⟩
    rw [cutInto.joined, PathParts.joined, year, month, ← told.environment, ← told.entityType,
      ← told.entityId, ← told.filename]
    rfl

/-- Exactly the texts of sound parts are read, as the path of these parts, all others are refused
for their first fault, and what is read is written again as it was if its numbers were written in the
one way of writing. -/
theorem parse_tells_grammar (s : String) :
    ((∃ path, Path.parse s = .ok path) ↔
      5 ≤ s.toList.count '/' ∧
        ∃ parts year month, CutInto s parts ∧ PathParts.Sound parts year month) ∧
    (∀ fault, Path.parse s = .error fault ↔
      (s.toList.count '/' < 5 ∧ fault = .tooFewParts s) ∨
        ∃ parts, CutInto s parts ∧ parts.Fails s fault) ∧
    ∀ path parts, Path.parse s = .ok path → CutInto s parts →
      parts.Told path ∧
        (path.text = s ↔
          parts.year = toString path.year.toInt ∧
            parts.month.length = 2 ∧ ∀ c ∈ parts.month.toList, c.isDigit) := by
  have enough {path : Path} (read : Path.parse s = .ok path) : 5 ≤ s.toList.count '/' := by
    by_contra few
    rw [parse_of_few (by omega)] at read
    cases read
  refine ⟨⟨?_, ?_⟩, fun fault => ⟨fun refused => ?_, ?_⟩, fun path parts read cutInto => ?_⟩
  · rintro ⟨path, read⟩
    obtain ⟨parts, cutInto⟩ := exists_cutInto (enough read)
    exact ⟨enough read, parts, _, _, cutInto, (told_of_parse cutInto read).sound⟩
  · rintro ⟨-, parts, year, month, cutInto, sound⟩
    obtain ⟨path, read, -⟩ := parse_of_sound cutInto sound
    exact ⟨path, read⟩
  · by_cases few : s.toList.count '/' < 5
    · rw [parse_of_few few] at refused
      exact .inl ⟨few, (Except.error.inj refused).symm⟩
    · obtain ⟨parts, cutInto⟩ := exists_cutInto (not_lt.1 few)
      exact .inr ⟨parts, cutInto, fails_of_parse cutInto refused⟩
  · rintro (⟨few, rfl⟩ | ⟨parts, cutInto, fails⟩)
    · exact parse_of_few few
    · exact parse_of_fails cutInto fails
  · have told := told_of_parse cutInto read
    exact ⟨told, text_eq_iff cutInto told⟩

end Depot.Files
