import Depot.Proofs.Files.PathText
import Depot.Proofs.Rows.Statements
import Depot.Rows.Files

/-!
# File records as rows

The row that is added for a file is read as that file, and a row that is overwritten is read as the
file it was overwritten with, except for the time of its creation.  A file beyond the limits of the
columns is refused before anything is sent, and a row with a value that no file has is never read
as one.
-/

set_option autoImplicit false

namespace Depot.Rows

open Files (File Path)

namespace FileRow

/-! ## Rows and their cells -/

/-- The values of the columns of a file. -/
structure Cells where
  id : Uuid
  entityType : String
  entityId : String
  field : String
  filename : String
  path : String
  mimeType : String
  size : Int
  width : Option Int
  height : Option Int
  createdAt : Instant
  updatedAt : Instant

/-- A row has these values in the columns of a file, in whatever order and beside whatever else. -/
structure Shows (row : Row) (cells : Cells) : Prop where
  id : row.lookup "id" = some (.uuid cells.id)
  entityType : row.lookup "entity_type" = some (.text cells.entityType)
  entityId : row.lookup "entity_id" = some (.text cells.entityId)
  field : row.lookup "field" = some (.text cells.field)
  filename : row.lookup "filename" = some (.text cells.filename)
  path : row.lookup "path" = some (.text cells.path)
  mimeType : row.lookup "mime_type" = some (.text cells.mimeType)
  size : row.lookup "size" = some (.int cells.size)
  width : row.lookup "width" = some (.ofOption .int cells.width)
  height : row.lookup "height" = some (.ofOption .int cells.height)
  createdAt : row.lookup "created_at" = some (.timestamp cells.createdAt)
  updatedAt : row.lookup "updated_at" = some (.timestamp cells.updatedAt)

def Cells.file (cells : Cells) : Except Failure File := do
  let size ← natural "size" cells.size
  let width ← naturalOption "width" cells.width
  let height ← naturalOption "height" cells.height
  let path ← pathOf cells.path
  return {
    id := cells.id
    owner := ⟨cells.entityType, cells.entityId, cells.field⟩
    filename := cells.filename
    path
    metadata := ⟨cells.mimeType, size, width, height⟩
    createdAt := cells.createdAt
    updatedAt := cells.updatedAt }

theorem file_shows {row : Row} {cells : Cells} (shown : Shows row cells) :
    file row = cells.file := by
  unfold file Cells.file
  simp only [text_iff.2 shown.path, int_iff.2 shown.size, optionalInt_iff.2 shown.width,
    optionalInt_iff.2 shown.height, text_iff.2 shown.mimeType, text_iff.2 shown.entityType,
    text_iff.2 shown.entityId, text_iff.2 shown.field, uuid_iff.2 shown.id,
    text_iff.2 shown.filename, timestamp_iff.2 shown.createdAt, timestamp_iff.2 shown.updatedAt]
  rfl

theorem exists_shows {row : Row} {read : File} (ok : file row = .ok read) :
    ∃ cells, Shows row cells ∧ cells.file = .ok read := by
  have whole := ok
  simp only [file, bind_ok_iff] at ok
  -- columns in the order in which they are read; the conversions in between do not matter here
  obtain ⟨path, atPath, size, atSize, width, atWidth, height, atHeight, mimeType, atMimeType,
    -, -, -, -, -, -, entityType, atEntityType, entityId, atEntityId, field, atField, id, atId,
    filename, atFilename, -, -, createdAt, atCreatedAt, updatedAt, atUpdatedAt, -⟩ := ok
  have shown : Shows row ⟨id, entityType, entityId, field, filename, path, mimeType, size, width,
      height, createdAt, updatedAt⟩ :=
    ⟨uuid_iff.1 atId, text_iff.1 atEntityType, text_iff.1 atEntityId, text_iff.1 atField,
      text_iff.1 atFilename, text_iff.1 atPath, text_iff.1 atMimeType, int_iff.1 atSize,
      optionalInt_iff.1 atWidth, optionalInt_iff.1 atHeight, timestamp_iff.1 atCreatedAt,
      timestamp_iff.1 atUpdatedAt⟩
  exact ⟨_, shown, (file_shows shown).symm.trans whole⟩

/-! ## Values that no file has -/

/-- Values that no file has: a negative size or side, or a text that is no path. -/
def Cells.Corrupt (cells : Cells) : Prop :=
  cells.size < 0 ∨ (∃ n ∈ cells.width, n < 0) ∨ (∃ n ∈ cells.height, n < 0) ∨
    ∃ fault, Path.parse cells.path = .error fault

theorem natural_cases (column : String) (n : Int) :
    0 ≤ n ∧ (∃ size, natural column n = .ok size) ∨
      n < 0 ∧ ∃ cause, natural column n = .error (.internal cause) := by
  cases n with
  | ofNat n => exact .inl ⟨Int.natCast_nonneg n, n, rfl⟩
  | negSucc n => exact .inr ⟨Int.negSucc_lt_zero n, _, rfl⟩

theorem naturalOption_cases (column : String) (n : Option Int) :
    (∀ m ∈ n, 0 ≤ m) ∧ (∃ side, naturalOption column n = .ok side) ∨
      (∃ m ∈ n, m < 0) ∧ ∃ cause, naturalOption column n = .error (.internal cause) := by
  cases n with
  | none => exact .inl ⟨by simp, none, rfl⟩
  | some m =>
    rcases natural_cases column m with ⟨positive, side, read⟩ | ⟨negative, cause, failed⟩
    · exact .inl ⟨by simpa using positive, some side, by rw [naturalOption, read]; rfl⟩
    · exact .inr ⟨⟨m, rfl, negative⟩, cause, by rw [naturalOption, failed]; rfl⟩

theorem pathOf_cases (text : String) :
    (∃ path, Path.parse text = .ok path ∧ pathOf text = .ok path) ∨
      (∃ fault, Path.parse text = .error fault) ∧ ∃ cause, pathOf text = .error (.internal cause) := by
  unfold pathOf
  cases parsed : Path.parse text with
  | ok path => exact .inl ⟨path, rfl, rfl⟩
  | error fault => exact .inr ⟨⟨fault, rfl⟩, _, rfl⟩

theorem file_cases (cells : Cells) :
    (∃ read, cells.file = .ok read) ∧ ¬ cells.Corrupt ∨
      (∃ cause, cells.file = .error (.internal cause)) ∧ cells.Corrupt := by
  unfold Cells.file Cells.Corrupt
  rcases natural_cases "size" cells.size with ⟨sized, size, read⟩ | ⟨negative, cause, failed⟩
  · rw [read]
    rcases naturalOption_cases "width" cells.width with
      ⟨wide, width, read⟩ | ⟨negative, cause, failed⟩
    · rw [read]
      rcases naturalOption_cases "height" cells.height with
        ⟨high, height, read⟩ | ⟨negative, cause, failed⟩
      · rw [read]
        rcases pathOf_cases cells.path with ⟨path, parsed, read⟩ | ⟨unparsed, cause, failed⟩
        · rw [read]
          refine .inl ⟨⟨_, rfl⟩, ?_⟩
          rintro (negative | ⟨n, given, negative⟩ | ⟨n, given, negative⟩ | ⟨fault, unparsed⟩)
          · omega
          · exact absurd (wide n given) (by omega)
          · exact absurd (high n given) (by omega)
          · rw [parsed] at unparsed
            cases unparsed
        · rw [failed]
          exact .inr ⟨⟨cause, rfl⟩, .inr (.inr (.inr unparsed))⟩
      · rw [failed]
        exact .inr ⟨⟨cause, rfl⟩, .inr (.inr (.inl negative))⟩
    · rw [failed]
      exact .inr ⟨⟨cause, rfl⟩, .inr (.inl negative)⟩
  · rw [failed]
    exact .inr ⟨⟨cause, rfl⟩, .inl negative⟩

/-! ## Values of a file -/

structure Fits (given : File) : Prop where
  size : given.metadata.size ≤ Text.maxInt64
  width : ∀ n ∈ given.metadata.width, n ≤ Text.maxInt32
  height : ∀ n ∈ given.metadata.height, n ≤ Text.maxInt32

/-- The values of a file, times in the precision in which they are kept. -/
def Cells.of (precision : Instant → Instant) (given : File) : Cells where
  id := given.id
  entityType := given.owner.entityType
  entityId := given.owner.entityId
  field := given.owner.field
  filename := given.filename
  path := given.path.text
  mimeType := given.metadata.mimeType
  size := given.metadata.size
  width := given.metadata.width.map Int.ofNat
  height := given.metadata.height.map Int.ofNat
  createdAt := precision given.createdAt
  updatedAt := precision given.updatedAt

theorem file_of (precision : Instant → Instant) (given : File) (created : Instant) :
    ({ Cells.of precision given with createdAt := created } : Cells).file =
      .ok { given.detached with
        createdAt := created, updatedAt := precision given.updatedAt } := by
  have path : pathOf given.path.text = .ok given.path := by
    rw [pathOf, Path.parse_text]
  have side (column : String) (n : Option Nat) :
      naturalOption column (n.map Int.ofNat) = .ok n := by
    cases n <;> rfl
  unfold Cells.file
  simp only [Cells.of, path, side]
  rfl

theorem of_file_ok {cells : Cells} {read : File} (ok : cells.file = .ok read) :
    read.id = cells.id ∧ read.createdAt = cells.createdAt := by
  simp only [Cells.file, bind_ok_iff] at ok
  obtain ⟨size, -, width, -, height, -, path, -, made⟩ := ok
  rw [← Except.ok.inj made]
  exact ⟨rfl, rfl⟩

theorem narrow_ok {column : String} {largest n : Nat} (within : n ≤ largest) :
    narrow column largest n = .ok (.int n) := if_pos within

theorem narrowOption_ok {column : String} {largest : Nat} {n : Option Nat}
    (within : ∀ m ∈ n, m ≤ largest) :
    narrowOption column largest n = .ok (.ofOption .int (n.map Int.ofNat)) := by
  cases n with
  | none => rfl
  | some m => exact narrow_ok (within m rfl)

def leading (given : File) : List Value :=
  [.uuid given.id, .text given.owner.entityType, .text given.owner.entityId,
    .text given.owner.field, .text given.filename, .text given.path.text,
    .text given.metadata.mimeType, .int given.metadata.size,
    .ofOption .int (given.metadata.width.map Int.ofNat),
    .ofOption .int (given.metadata.height.map Int.ofNat)]

theorem leadingValues_fits {given : File} (fits : Fits given) :
    leadingValues given = .ok (leading given) := by
  unfold leadingValues
  rw [narrow_ok fits.size, narrowOption_ok fits.width, narrowOption_ok fits.height]
  rfl

theorem narrow_exceeds {column : String} {largest n : Nat} (beyond : ¬ n ≤ largest) :
    ∃ reason, narrow column largest n = .error (.invalid reason) := ⟨_, if_neg beyond⟩

theorem narrowOption_exceeds {column : String} {largest : Nat} {n : Option Nat}
    (beyond : ¬ ∀ m ∈ n, m ≤ largest) :
    ∃ reason, narrowOption column largest n = .error (.invalid reason) := by
  cases n with
  | none => exact absurd (by simp) beyond
  | some m => exact narrow_exceeds fun within => beyond (by simpa using within)

theorem leadingValues_exceeds {given : File} (exceeds : ¬ Fits given) :
    ∃ reason, leadingValues given = .error (.invalid reason) := by
  unfold leadingValues
  by_cases size : given.metadata.size ≤ Text.maxInt64
  · rw [narrow_ok size]
    by_cases width : ∀ n ∈ given.metadata.width, n ≤ Text.maxInt32
    · rw [narrowOption_ok width]
      by_cases height : ∀ n ∈ given.metadata.height, n ≤ Text.maxInt32
      · exact absurd ⟨size, width, height⟩ exceeds
      · obtain ⟨reason, failed⟩ := @narrowOption_exceeds "height" _ _ height
        exact ⟨reason, by rw [failed]; rfl⟩
    · obtain ⟨reason, failed⟩ := @narrowOption_exceeds "width" _ _ width
      exact ⟨reason, by rw [failed]; rfl⟩
  · obtain ⟨reason, failed⟩ := @narrow_exceeds "size" _ _ size
    exact ⟨reason, by rw [failed]; rfl⟩

end FileRow

/-! ## The two statements -/

section Statements

open FileRow

variable {given : File} {precision : Instant → Instant} {row : Row} {cells : Cells}

def FileRow.Cells.values (cells : Cells) : List Value :=
  [.uuid cells.id, .text cells.entityType, .text cells.entityId, .text cells.field,
    .text cells.filename, .text cells.path, .text cells.mimeType, .int cells.size,
    .ofOption .int cells.width, .ofOption .int cells.height, .timestamp cells.createdAt,
    .timestamp cells.updatedAt]

theorem shows_zip (cells : Cells) : Shows (columns.zip cells.values) cells := by
  constructor <;> simp [columns, Cells.values, List.lookup_cons]

theorem kept_side (n : Option Int) :
    Value.kept precision (.ofOption .int n) = .ofOption .int n := by
  cases n <;> rfl

def changing : List String := columns.filter fun column => column ≠ "id" ∧ column ≠ "created_at"

theorem insertPlan?_insertFile (fits : Fits given) :
    ∃ statement, (insertFile given).statement = .ok statement ∧
      statement.params = leading given ++ [.timestamp given.createdAt, .timestamp given.updatedAt] ∧
      insertPlan? statement.sql = some (columns.zip (List.range 12)) := by
  unfold insertFile
  rw [leadingValues_fits fits]
  refine ⟨_, rfl, rfl, ?_⟩
  dsimp only
  -- what is left is about the text, which is the same for every file
  decide +kernel

theorem updatePlan?_updateFile (fits : Fits given) :
    ∃ statement, (updateFile given).statement = .ok statement ∧
      statement.params = leading given ++ [.timestamp given.updatedAt] ∧
      updatePlan? statement.sql =
        some (changing.zip ((List.range 11).drop 1), [("id", 0)]) := by
  unfold updateFile
  rw [leadingValues_fits fits]
  refine ⟨_, rfl, rfl, ?_⟩
  dsimp only
  decide +kernel

theorem leading_kept : (leading given).map (Value.kept precision) = leading given := by
  simp only [leading, List.map_cons, List.map_nil, kept_side]
  rfl

theorem values_insertFile :
    (leading given ++ [Value.timestamp given.createdAt, Value.timestamp given.updatedAt]).map
        (Value.kept precision) = (Cells.of precision given).values := by
  rw [List.map_append, leading_kept]
  rfl

theorem added_shows (fits : Fits given) :
    ∃ statement row, (insertFile given).statement = .ok statement ∧
      statement.added? precision = some row ∧ Shows row (Cells.of precision given) := by
  obtain ⟨statement, sent, params, plan⟩ := insertPlan?_insertFile fits
  refine ⟨statement, columns.zip (Cells.of precision given).values, sent, ?_, shows_zip _⟩
  rw [Statement.added?, plan, Statement.values, params, values_insertFile]
  rfl

def FileRow.Cells.changed (cells : Cells) : Row :=
  [("entity_type", .text cells.entityType), ("entity_id", .text cells.entityId),
    ("field", .text cells.field), ("filename", .text cells.filename), ("path", .text cells.path),
    ("mime_type", .text cells.mimeType), ("size", .int cells.size),
    ("width", .ofOption .int cells.width), ("height", .ofOption .int cells.height),
    ("updated_at", .timestamp cells.updatedAt)]

theorem shows_overwrite {other : Cells} (shown : Shows row cells) (same : other.id = cells.id) :
    Shows (row.overwrite other.changed) { other with createdAt := cells.createdAt } := by
  constructor <;>
    simp [Row.lookup_overwrite, Cells.changed, List.lookup_cons, same, shown.id, shown.entityType,
      shown.entityId, shown.field, shown.filename, shown.path, shown.mimeType, shown.size,
      shown.width, shown.height, shown.createdAt, shown.updatedAt]

theorem overwritten_shows (shown : Shows row cells) (fits : Fits given) :
    ∃ statement later, (updateFile given).statement = .ok statement ∧
      statement.overwritten? precision row = some later ∧
      (given.id = cells.id →
        Shows later { Cells.of precision given with createdAt := cells.createdAt }) ∧
      (given.id ≠ cells.id → later = row) := by
  obtain ⟨statement, sent, params, plan⟩ := updatePlan?_updateFile fits
  have values : statement.values precision =
      leading given ++ [Value.timestamp (precision given.updatedAt)] := by
    rw [Statement.values, params, List.map_append, leading_kept]
    rfl
  have changes : Plan.row? (changing.zip ((List.range 11).drop 1)) (statement.values precision) =
      some (Cells.of precision given).changed := by
    rw [values]
    rfl
  have key : Plan.row? [("id", 0)] (statement.values precision) =
      some [("id", .uuid given.id)] := by
    rw [values]
    rfl
  obtain ⟨later, outcome, here, elsewhere⟩ :=
    Statement.overwritten_by_id plan changes key shown.id
  refine ⟨statement, later, sent, outcome, fun same => ?_, elsewhere⟩
  rw [here same]
  exact shows_overwrite shown same

theorem run_exceeding (exceeds : ¬ Fits given) :
    ∃ reason, ∀ server, (insertFile given).run server = (.error (.invalid reason), []) ∧
      (updateFile given).run server = (.error (.invalid reason), []) := by
  obtain ⟨reason, failed⟩ := leadingValues_exceeds exceeds
  refine ⟨reason, fun server => ?_⟩
  constructor
  · unfold insertFile Query.run
    rw [failed]
    rfl
  · unfold updateFile Query.run
    rw [failed]
    rfl

end Statements

/-- **Files as rows.**  Within the limits of the columns, the row added for a file is read as the
file without its untaken events, and a row that is read as a file is overwritten, by its key, to one
that is read as the other file with the time of creation kept.  Beyond the limits either call fails
and nothing is sent.  A row with a value of its kind in every column is read as a file unless a size
or side is negative or the path is none; then a failure of the store is reported. -/
theorem rows_stand_for_files :
    (∀ (precision : Instant → Instant) (given : File), FileRow.Fits given →
      ∃ statement row, (insertFile given).statement = .ok statement ∧
        statement.added? precision = some row ∧
        FileRow.file row = .ok { given.detached with
          createdAt := precision given.createdAt, updatedAt := precision given.updatedAt }) ∧
      (∀ (precision : Instant → Instant) (given old : File) (row : Row), FileRow.Fits given →
        FileRow.file row = .ok old →
        ∃ statement later, (updateFile given).statement = .ok statement ∧
          statement.overwritten? precision row = some later ∧
          (given.id = old.id → FileRow.file later = .ok { given.detached with
            createdAt := old.createdAt, updatedAt := precision given.updatedAt }) ∧
          (given.id ≠ old.id → later = row)) ∧
      (∀ given : File, ¬ FileRow.Fits given →
        ∃ reason, ∀ server, (insertFile given).run server = (.error (.invalid reason), []) ∧
          (updateFile given).run server = (.error (.invalid reason), [])) ∧
      ∀ (row : Row) (cells : FileRow.Cells), FileRow.Shows row cells →
        (∃ read, FileRow.file row = .ok read) ∧ ¬ cells.Corrupt ∨
          (∃ cause, FileRow.file row = .error (.internal cause)) ∧ cells.Corrupt := by
  refine ⟨?_, ?_, fun given => run_exceeding, ?_⟩
  · intro precision given fits
    obtain ⟨statement, row, sent, added, shown⟩ := @added_shows given precision fits
    refine ⟨statement, row, sent, added, ?_⟩
    exact (FileRow.file_shows shown).trans (FileRow.file_of precision given _)
  · intro precision given old row fits read
    obtain ⟨cells, shown, held⟩ := FileRow.exists_shows read
    obtain ⟨statement, later, sent, overwritten, here, elsewhere⟩ :=
      @overwritten_shows given precision row cells shown fits
    obtain ⟨key, made⟩ := FileRow.of_file_ok held
    refine ⟨statement, later, sent, overwritten, fun same => ?_, fun other => ?_⟩
    · rw [FileRow.file_shows (here (same.trans key)), made, FileRow.file_of]
    · exact elsewhere fun same => other (same.trans key.symm)
  · intro row cells shown
    rw [FileRow.file_shows shown]
    exact FileRow.file_cases cells

end Depot.Rows
