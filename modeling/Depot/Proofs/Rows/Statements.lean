import Depot.Rows.Value
import Depot.Text.Pieces
import Mathlib.Data.List.Basic

/-!
# What statements do to rows

A statement that adds a row names its columns and the places of their values in the same order;
one that overwrites a row names each column next to the place of its value, and after that the
columns by which the row is found.  Both are read off the text of the statement, so that a column
beside the wrong place is seen.
-/

set_option autoImplicit false

namespace Depot.Rows

/-! ## Reading statements -/

/-- The words of a statement, without parentheses and commas. -/
def words (sql : String) : List String :=
  (Text.cutAt ' ' sql.toList).map fun word => String.ofList (word.filter (· ∉ ['(', ')', ',']))

/-- The position of a value among those of a statement: `$1` is the first one. -/
def place? (word : String) : Option Nat :=
  match word.toList with
  | '$' :: digits =>
    match Text.unsigned Text.maxWord16 (String.ofList digits) with
    | .ok (n + 1) => some n
    | _ => none
  | _ => none

/-- Columns, each with the position of its value. -/
abbrev Plan := List (String × Nat)

def equations? : List String → Option Plan
  | [] => some []
  | column :: "=" :: word :: rest => do
    let place ← place? word
    return (column, place) :: (← equations? rest)
  | _ => none

/-- The columns of a row that a statement adds. -/
def insertPlan? (sql : String) : Option Plan :=
  match words sql with
  | "INSERT" :: "INTO" :: _ :: rest =>
    let columns := rest.takeWhile (· ≠ "VALUES")
    let places := (rest.dropWhile (· ≠ "VALUES")).drop 1
    if columns.length = places.length then
      (columns.zip places).mapM fun pair => (place? pair.2).map (pair.1, ·)
    else none
  | _ => none

/-- The columns that a statement overwrites, and those by which it finds a row. -/
def updatePlan? (sql : String) : Option (Plan × Plan) :=
  match words sql with
  | "UPDATE" :: _ :: "SET" :: rest => do
    let changes ← equations? (rest.takeWhile (· ≠ "WHERE"))
    let key ← equations? ((rest.dropWhile (· ≠ "WHERE")).drop 1)
    return (changes, key)
  | _ => none

def Plan.row? (plan : Plan) (params : List Value) : Option Row :=
  plan.mapM fun cell => (params[cell.2]?).map (cell.1, ·)

def Row.overwrite (row changes : Row) : Row :=
  row.map fun cell => (cell.1, (changes.lookup cell.1).getD cell.2)

/-! ## What a server makes of them -/

/-- A value as it is kept, times in the precision of the server. -/
def Value.kept (precision : Instant → Instant) : Value → Value
  | timestamp time => timestamp (precision time)
  | value => value

namespace Statement

variable (precision : Instant → Instant) (statement : Statement)

def values : List Value := statement.params.map (Value.kept precision)

/-- The row that a statement adds. -/
def added? : Option Row := do
  let plan ← insertPlan? statement.sql
  plan.row? (statement.values precision)

/-- What a statement makes of a row; rows with another key stay as they are. -/
def overwritten? (row : Row) : Option Row := do
  let plans ← updatePlan? statement.sql
  let changes ← plans.1.row? (statement.values precision)
  let key ← plans.2.row? (statement.values precision)
  return if key.all fun cell => row.lookup cell.1 = some cell.2 then row.overwrite changes else row

end Statement

theorem Row.lookup_overwrite (row changes : Row) (column : String) :
    (row.overwrite changes).lookup column =
      (row.lookup column).map fun value => (changes.lookup column).getD value := by
  induction row with
  | nil => rfl
  | cons cell rest ih =>
    obtain ⟨name, value⟩ := cell
    by_cases here : column = name
    · simp [overwrite, here]
    · have other : (column == name) = false := by simpa using here
      unfold overwrite at ih ⊢
      rw [List.map_cons, List.lookup_cons, List.lookup_cons, other]
      exact ih

theorem Statement.overwritten_by_id {precision : Instant → Instant} {statement : Statement}
    {row changes : Row} {changing : Plan} {given shown : Uuid}
    (plan : updatePlan? statement.sql = some (changing, [("id", 0)]))
    (changed : changing.row? (statement.values precision) = some changes)
    (first : Plan.row? [("id", 0)] (statement.values precision) = some [("id", .uuid given)])
    (here : row.lookup "id" = some (.uuid shown)) :
    ∃ later, statement.overwritten? precision row = some later ∧
      (given = shown → later = row.overwrite changes) ∧ (given ≠ shown → later = row) := by
  have outcome : statement.overwritten? precision row =
      some (if shown = given then row.overwrite changes else row) := by
    rw [overwritten?, plan]
    simp only [bind, Option.bind, pure, changed, first, List.all_cons, List.all_nil, Bool.and_true,
      decide_eq_true_eq, here, Option.some.injEq, Value.uuid.injEq]
  refine ⟨_, outcome, ?_, ?_⟩
  · intro same
    rw [if_pos same.symm]
  · intro other
    rw [if_neg other.symm]

/-! ## Reading columns -/

section Columns

variable {α β : Type} {context column : String} {row : Row}

theorem bind_ok_iff {first : Except Failure α} {next : α → Except Failure β} {value : β} :
    (first >>= next) = .ok value ↔ ∃ middle, first = .ok middle ∧ next middle = .ok value := by
  cases first with
  | error failure => simp [bind, Except.bind]
  | ok middle => simp [bind, Except.bind]

/-- A column is read as a content just where it holds the value that is made of the content. -/
theorem read_iff {of? : Value → Option α} {make : α → Value}
    (inverse : ∀ value content, of? value = some content ↔ value = make content) {content : α} :
    row.read context of? column = .ok content ↔ row.lookup column = some (make content) := by
  unfold Row.read Row.value
  cases row.lookup column with
  | none => simp [bind, Except.bind]
  | some value =>
    rw [Option.some_inj, ← inverse]
    cases told : of? value <;>
      simp [bind, Except.bind, told, pure, Except.pure, throw, throwThe, MonadExceptOf.throw]

theorem nullable?_iff {of? : Value → Option α} {make : α → Value}
    (inverse : ∀ value content, of? value = some content ↔ value = make content)
    (filled : of? .null = none) (value : Value) (content : Option α) :
    Value.nullable? of? value = some content ↔ value = .ofOption make content := by
  cases content with
  | none => cases value <;> simp [Value.nullable?, Value.ofOption]
  | some content =>
    rw [Value.ofOption, ← inverse]
    cases value with
    | null => simp [Value.nullable?, filled]
    | _ => simp [Value.nullable?]

theorem text?_iff (value : Value) (s : String) : value.text? = some s ↔ value = .text s := by
  cases value <;> simp [Value.text?]

theorem int?_iff (value : Value) (n : Int) : value.int? = some n ↔ value = .int n := by
  cases value <;> simp [Value.int?]

theorem text_iff {s : String} :
    row.text context column = .ok s ↔ row.lookup column = some (.text s) :=
  read_iff text?_iff

theorem optionalText_iff {s : Option String} :
    row.optionalText context column = .ok s ↔ row.lookup column = some (.ofOption .text s) :=
  read_iff (nullable?_iff text?_iff rfl)

theorem int_iff {n : Int} :
    row.int context column = .ok n ↔ row.lookup column = some (.int n) :=
  read_iff int?_iff

theorem optionalInt_iff {n : Option Int} :
    row.optionalInt context column = .ok n ↔ row.lookup column = some (.ofOption .int n) :=
  read_iff (nullable?_iff int?_iff rfl)

theorem uuid_iff {id : Uuid} :
    row.uuid context column = .ok id ↔ row.lookup column = some (.uuid id) :=
  read_iff fun value _ => by cases value <;> simp [Value.uuid?]

theorem timestamp_iff {time : Instant} :
    row.timestamp context column = .ok time ↔ row.lookup column = some (.timestamp time) :=
  read_iff fun value _ => by cases value <;> simp [Value.timestamp?]

theorem texts_iff {items : List String} :
    row.texts context column = .ok items ↔ row.lookup column = some (.texts items) :=
  read_iff fun value _ => by cases value <;> simp [Value.texts?]

end Columns

end Depot.Rows
