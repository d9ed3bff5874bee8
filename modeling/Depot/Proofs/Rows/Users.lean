import Depot.Proofs.Accounts.Returned
import Depot.Proofs.Rows.Statements
import Depot.Rows.Users

/-!
# User records as rows

Reading a row takes its name to a slug once more.  The names that use cases give to users are in
the form of slugs and so stay as they are, and the row that is added or overwritten for such a user
is read as that user.  A row with an unknown role, or with a text that makes no name, is never read
as one.
-/

set_option autoImplicit false

namespace Depot.Rows

open Accounts

namespace UserRow

/-! ## Names and roles -/

theorem usernameOf_text {name : Username} (normal : name.Normal) :
    usernameOf name.text = .ok name := by
  have checked : Username.check name.text = .ok name := by
    unfold Username.check
    split
    · rfl
    · rename_i fault
      rw [name.allowed] at fault
      cases fault
  have parsed : Username.parse name.text = .ok name := by
    rw [Username.parse, slug_of_slugged normal.form]
    exact checked
  rw [usernameOf, nameOf, parsed]

theorem usernameOf_ok {text : String} {name : Username} (read : usernameOf text = .ok name) :
    3 ≤ (slug text).length ∧ (slug text).length ≤ 32 := by
  unfold usernameOf at read
  cases named : nameOf text with
  | error failure =>
    rw [named] at read
    cases read
  | ok other =>
    have normal := nameOf_normal named
    unfold nameOf at named
    split at named
    · rename_i parsed
      cases named
      rw [← Username.text_of_check parsed, ← String.length_toList]
      exact ⟨normal.long, normal.short⟩
    · cases named

theorem roleOf_ok {text : String} {role : Role} (read : roleOf text = .ok role) :
    role.text = text := by
  unfold roleOf Role.parse Role.ofText? at read
  split at read
  · rename_i parsed
    cases read
    split at parsed
    · rename_i known
      cases parsed
      split at known <;> cases known <;> rfl
    · cases parsed
  · cases read

theorem mapM_roleOf (roles : List Role) : (roles.map Role.text).mapM roleOf = .ok roles := by
  induction roles with
  | nil => rfl
  | cons role rest ih =>
    rw [List.map_cons, List.mapM_cons, ih]
    cases role <;> rfl

theorem known_of_mapM {names : List String} {roles : List Role}
    (read : names.mapM roleOf = .ok roles) : ∀ name ∈ names, ∃ role : Role, role.text = name := by
  induction names generalizing roles with
  | nil => simp
  | cons first rest ih =>
    rw [List.mapM_cons, bind_ok_iff] at read
    obtain ⟨role, one, others⟩ := read
    obtain ⟨later, more, -⟩ := bind_ok_iff.1 others
    intro name member
    rcases List.mem_cons.1 member with rfl | present
    · exact ⟨role, roleOf_ok one⟩
    · exact ih more name present

/-! ## Rows and their cells -/

/-- The values of the columns of a user. -/
structure Cells where
  id : Uuid
  username : String
  email : String
  passwordHash : Option String
  roles : List String
  createdAt : Instant
  updatedAt : Instant

/-- A row has these values in the columns of a user, in whatever order and beside whatever else. -/
structure Shows (row : Row) (cells : Cells) : Prop where
  id : row.lookup "id" = some (.uuid cells.id)
  username : row.lookup "username" = some (.text cells.username)
  email : row.lookup "email" = some (.text cells.email)
  passwordHash : row.lookup "password_hash" = some (.ofOption .text cells.passwordHash)
  roles : row.lookup "roles" = some (.texts cells.roles)
  createdAt : row.lookup "created_at" = some (.timestamp cells.createdAt)
  updatedAt : row.lookup "updated_at" = some (.timestamp cells.updatedAt)

def Cells.user (cells : Cells) : Except Failure User := do
  let username ← usernameOf cells.username
  let roles ← cells.roles.mapM roleOf
  return {
    id := cells.id
    username
    email := cells.email
    passwordHash := cells.passwordHash
    roles
    createdAt := cells.createdAt
    updatedAt := cells.updatedAt }

variable {row : Row} {cells : Cells} {read : User}

theorem user_shows (shown : Shows row cells) : user row = cells.user := by
  unfold user Cells.user
  simp only [text_iff.2 shown.username, texts_iff.2 shown.roles, uuid_iff.2 shown.id,
    text_iff.2 shown.email, optionalText_iff.2 shown.passwordHash, timestamp_iff.2 shown.createdAt,
    timestamp_iff.2 shown.updatedAt, bind, Except.bind]

theorem exists_shows (ok : user row = .ok read) :
    ∃ cells, Shows row cells ∧ cells.user = .ok read := by
  have whole := ok
  simp only [user, bind_ok_iff] at ok
  obtain ⟨username, atUsername, roles, atRoles, id, atId, -, -, email, atEmail, passwordHash,
    atPasswordHash, -, -, createdAt, atCreatedAt, updatedAt, atUpdatedAt, -⟩ := ok
  have shown : Shows row ⟨id, username, email, passwordHash, roles, createdAt, updatedAt⟩ :=
    ⟨uuid_iff.1 atId, text_iff.1 atUsername, text_iff.1 atEmail,
      optionalText_iff.1 atPasswordHash, texts_iff.1 atRoles, timestamp_iff.1 atCreatedAt,
      timestamp_iff.1 atUpdatedAt⟩
  exact ⟨_, shown, (user_shows shown).symm.trans whole⟩

theorem of_user_ok (ok : cells.user = .ok read) :
    (∃ username, usernameOf cells.username = .ok username) ∧
      (∃ roles, cells.roles.mapM roleOf = .ok roles) ∧
      read.id = cells.id ∧ read.createdAt = cells.createdAt := by
  simp only [Cells.user, bind_ok_iff] at ok
  obtain ⟨username, named, roles, given, made⟩ := ok
  rw [← Except.ok.inj made]
  exact ⟨⟨username, named⟩, ⟨roles, given⟩, rfl, rfl⟩

/-! ## Values that no user has -/

/-- Values that no user has: a role that is not known, or a text that makes no name. -/
def Corrupt (row : Row) : Prop :=
  (∃ names, row.lookup "roles" = some (.texts names) ∧
      ∃ name ∈ names, ∀ role : Role, role.text ≠ name) ∨
    ∃ text, row.lookup "username" = some (.text text) ∧
      ((slug text).length < 3 ∨ 32 < (slug text).length)

theorem not_corrupt_of_ok (ok : user row = .ok read) : ¬ Corrupt row := by
  obtain ⟨cells, shown, held⟩ := exists_shows ok
  obtain ⟨⟨username, named⟩, ⟨roles, given⟩, -, -⟩ := of_user_ok held
  rintro (⟨names, here, name, member, unknown⟩ | ⟨text, here, length⟩)
  · obtain rfl : names = cells.roles := by simpa [shown.roles] using here.symm
    obtain ⟨role, known⟩ := known_of_mapM given name member
    exact unknown role known
  · obtain rfl : text = cells.username := by simpa [shown.username] using here.symm
    have bounds := usernameOf_ok named
    omega

/-- A failure of the store, if it is one. -/
def Internal {α : Type} (result : Except Failure α) : Prop :=
  ∀ failure, result = .error failure → ∃ cause, failure = .internal cause

section Internal

variable {α β : Type} {context column : String}

theorem Internal.bind {first : Except Failure α} {next : α → Except Failure β}
    (one : Internal first) (other : ∀ value, Internal (next value)) : Internal (first >>= next) := by
  cases first with
  | error failure =>
    intro last same
    cases same
    exact one failure rfl
  | ok value => exact other value

theorem Internal.ok (value : α) : Internal (.ok value) := by
  intro failure bad
  cases bad

theorem Internal.error (cause : String) : Internal (.error (.internal cause) : Except Failure α) := by
  intro failure same
  cases same
  exact ⟨cause, rfl⟩

theorem internal_read {of? : Value → Option α} : Internal (row.read context of? column) := by
  have found : Internal (row.value context column) := by
    unfold Row.value
    cases row.lookup column with
    | none => exact .error _
    | some value => exact .ok value
  refine .bind found fun value => ?_
  cases of? value with
  | some content => exact .ok content
  | none => exact .error _

theorem internal_usernameOf (text : String) : Internal (usernameOf text) := by
  unfold usernameOf
  cases nameOf text with
  | ok name => exact .ok name
  | error failure => exact .error _

theorem internal_roleOf (text : String) : Internal (roleOf text) := by
  unfold roleOf
  cases Role.parse text with
  | ok role => exact .ok role
  | error failure => exact .error _

theorem internal_mapM (names : List String) : Internal (names.mapM roleOf) := by
  induction names with
  | nil => exact .ok []
  | cons name rest ih =>
    rw [List.mapM_cons]
    exact .bind (internal_roleOf name) fun _ => .bind ih fun _ => .ok _

/-- Whatever keeps a row from being read is reported as a failure of the store. -/
theorem internal_user (row : Row) : Internal (user row) :=
  .bind internal_read fun _ => .bind internal_read fun _ => .bind internal_read fun _ =>
    .bind (internal_usernameOf _) fun _ => .bind internal_read fun _ => .bind internal_read fun _ =>
      .bind (internal_mapM _) fun _ => .bind internal_read fun _ => .bind internal_read fun _ => .ok _

theorem user_of_corrupt (corrupt : Corrupt row) : ∃ cause, user row = .error (.internal cause) := by
  cases outcome : user row with
  | ok read => exact absurd corrupt (not_corrupt_of_ok outcome)
  | error failure =>
    obtain ⟨cause, rfl⟩ := internal_user row failure outcome
    exact ⟨cause, rfl⟩

end Internal

end UserRow

/-! ## The two statements -/

section Statements

open UserRow

variable {given : User} {precision : Instant → Instant} {row : Row} {cells : UserRow.Cells}

/-- The values of a user, times in the precision in which they are kept. -/
def UserRow.Cells.of (precision : Instant → Instant) (given : User) : UserRow.Cells where
  id := given.id
  username := given.username.text
  email := given.email
  passwordHash := given.passwordHash
  roles := given.roles.map Role.text
  createdAt := precision given.createdAt
  updatedAt := precision given.updatedAt

def UserRow.Cells.values (cells : UserRow.Cells) : List Value :=
  [.uuid cells.id, .text cells.username, .text cells.email, .ofOption .text cells.passwordHash,
    .texts cells.roles, .timestamp cells.createdAt, .timestamp cells.updatedAt]

theorem UserRow.shows_zip (cells : UserRow.Cells) : Shows (columns.zip cells.values) cells := by
  constructor <;> simp [columns, Cells.values, List.lookup_cons]

theorem user_of (normal : given.username.Normal) (created : Instant) :
    ({ UserRow.Cells.of precision given with createdAt := created } : UserRow.Cells).user =
      .ok { given.detached with
        createdAt := created, updatedAt := precision given.updatedAt } := by
  unfold Cells.user
  simp only [Cells.of, usernameOf_text normal, mapM_roleOf]
  rfl

theorem kept_text (s : Option String) :
    Value.kept precision (.ofOption .text s) = .ofOption .text s := by
  cases s <;> rfl

theorem insertPlan?_insertUser (given : User) :
    ∃ statement, (insertUser given).statement = .ok statement ∧
      statement.params = UserRow.values given ∧
      insertPlan? statement.sql = some (columns.zip (List.range 7)) := by
  refine ⟨_, rfl, rfl, ?_⟩
  dsimp only
  decide +kernel

/-- What an overwriting binds, in the order of its places. -/
def overwriting (given : User) : List Value :=
  [.uuid given.id, .text given.username.text, .text given.email,
    .ofOption .text given.passwordHash, .texts (given.roles.map Role.text),
    .timestamp given.updatedAt]

def overwrittenColumns : List String :=
  columns.filter fun column => column ≠ "id" ∧ column ≠ "created_at"

theorem updatePlan?_updateUser (given : User) :
    ∃ statement, (updateUser given).statement = .ok statement ∧
      statement.params = overwriting given ∧
      updatePlan? statement.sql =
        some (overwrittenColumns.zip ((List.range 6).drop 1), [("id", 0)]) := by
  refine ⟨_, rfl, rfl, ?_⟩
  dsimp only
  decide +kernel

theorem UserRow.added_shows (precision : Instant → Instant) (given : User) :
    ∃ statement row, (insertUser given).statement = .ok statement ∧
      statement.added? precision = some row ∧ Shows row (Cells.of precision given) := by
  obtain ⟨statement, sent, params, plan⟩ := insertPlan?_insertUser given
  have values : statement.values precision = (UserRow.Cells.of precision given).values := by
    rw [Statement.values, params, UserRow.values]
    simp only [List.map_cons, List.map_nil, kept_text]
    rfl
  refine ⟨statement, columns.zip (Cells.of precision given).values, sent, ?_, shows_zip _⟩
  rw [Statement.added?, plan, values]
  rfl

def UserRow.Cells.changed (cells : UserRow.Cells) : Row :=
  [("username", .text cells.username), ("email", .text cells.email),
    ("password_hash", .ofOption .text cells.passwordHash), ("roles", .texts cells.roles),
    ("updated_at", .timestamp cells.updatedAt)]

theorem UserRow.shows_overwrite {other : UserRow.Cells} (shown : Shows row cells)
    (same : other.id = cells.id) :
    Shows (row.overwrite other.changed) { other with createdAt := cells.createdAt } := by
  constructor <;>
    simp [Row.lookup_overwrite, Cells.changed, List.lookup_cons, same, shown.id, shown.username,
      shown.email, shown.passwordHash, shown.roles, shown.createdAt, shown.updatedAt]

theorem UserRow.overwritten_shows (precision : Instant → Instant) (given : User)
    (shown : Shows row cells) :
    ∃ statement later, (updateUser given).statement = .ok statement ∧
      statement.overwritten? precision row = some later ∧
      (given.id = cells.id →
        Shows later { Cells.of precision given with createdAt := cells.createdAt }) ∧
      (given.id ≠ cells.id → later = row) := by
  obtain ⟨statement, sent, params, plan⟩ := updatePlan?_updateUser given
  have values : statement.values precision =
      [.uuid given.id, .text given.username.text, .text given.email,
        .ofOption .text given.passwordHash, .texts (given.roles.map Role.text),
        .timestamp (precision given.updatedAt)] := by
    rw [Statement.values, params, overwriting]
    simp only [List.map_cons, List.map_nil, kept_text]
    rfl
  have changes : Plan.row? (overwrittenColumns.zip ((List.range 6).drop 1))
      (statement.values precision) = some (Cells.of precision given).changed := by
    rw [values]
    rfl
  have key : Plan.row? [("id", 0)] (statement.values precision) =
      some [("id", .uuid given.id)] := by
    rw [values]
    rfl
  obtain ⟨later, outcome, here, elsewhere⟩ :=
    Statement.overwritten_by_id plan changes key shown.id
  refine ⟨statement, later, sent, outcome, fun same => ?_, elsewhere⟩
  rw [here same]
  exact shows_overwrite shown same

end Statements

/-- The row added for a user is read as the user, and a row that is read as a user is overwritten,
by its key, to one that is read as the given user with the time of creation kept. -/
def StandsFor (given : User) : Prop :=
  ∀ precision : Instant → Instant,
    (∃ statement row, (insertUser given).statement = .ok statement ∧
      statement.added? precision = some row ∧
      UserRow.user row = .ok { given.detached with
        createdAt := precision given.createdAt, updatedAt := precision given.updatedAt }) ∧
    ∀ row old, UserRow.user row = .ok old →
      ∃ statement later, (updateUser given).statement = .ok statement ∧
        statement.overwritten? precision row = some later ∧
        (given.id = old.id → UserRow.user later = .ok { given.detached with
          createdAt := old.createdAt, updatedAt := precision given.updatedAt }) ∧
        (given.id ≠ old.id → later = row)

theorem standsFor_of_normal {given : User} (normal : given.username.Normal) :
    StandsFor given := by
  intro precision
  constructor
  · obtain ⟨statement, row, sent, added, shown⟩ := UserRow.added_shows precision given
    refine ⟨statement, row, sent, added, ?_⟩
    exact (UserRow.user_shows shown).trans (user_of normal _)
  · intro row old read
    obtain ⟨cells, shown, held⟩ := UserRow.exists_shows read
    obtain ⟨statement, later, sent, overwritten, here, elsewhere⟩ :=
      UserRow.overwritten_shows precision given shown
    obtain ⟨-, -, key, made⟩ := UserRow.of_user_ok held
    refine ⟨statement, later, sent, overwritten, ?_, ?_⟩
    · intro same
      rw [UserRow.user_shows (here (same.trans key)), made, user_of normal]
    · intro other
      exact elsewhere fun same => other (same.trans key.symm)

/-- **Users as rows.**  In any run from no users whose endings are drawn as they should be, every
user that a use case gives back is stood for by its row, added or overwritten.  A row with an
unknown role, or with a text that is too short or too long for a name, is never read as a user but
reported as a failure of the store. -/
theorem rows_stand_for_users {state : State} {steps : List Step} (nobody : state.users = {})
    (draws : ∀ step ∈ steps, step.operation.Draws) :
    (∀ env (operation : Operation) given, operation.Draws →
        operation.Gives env (run steps state) given → StandsFor given) ∧
      ∀ row, UserRow.Corrupt row → ∃ cause, UserRow.user row = .error (.internal cause) := by
  have normal : (run steps state).users.Normal := by
    apply run_normal draws
    rw [nobody]
    intro user stored
    cases stored
  constructor
  · intro env operation given proper gives
    exact standsFor_of_normal (gives.normal proper normal)
  · intro row
    exact UserRow.user_of_corrupt

def promotion : Change :=
  { user := .ofNat 3, roles := some [.user, .admin, .user] }

def promoted : User where
  id := .ofNat 3
  username := ⟨"ana_aaaab", by decide +kernel⟩
  email := "third@example.org"
  passwordHash := none
  roles := [.user, .admin, .user]
  createdAt := ⟨0, 0⟩
  updatedAt := ⟨1, 0⟩

theorem rows_stand_for_promoted :
    StandsFor promoted ∧
      ∃ cause, UserRow.user [("roles", .texts ["USER", "GUEST"])] = .error (.internal cause) := by
  have draws : ∀ step ∈ namesakes [0, 0, 0, 0, 1], step.operation.Draws := by
    simpa [namesakes, Operation.Draws] using (⟨rfl, by decide⟩ : ProperDraws [0, 0, 0, 0, 1])
  have given : ((change ⟨⟨1, 0⟩, ⟨"", ""⟩, .plain⟩ promotion).runOn
      (run (namesakes [0, 0, 0, 0, 1]) {})).1 = .ok promoted := by
    decide +kernel
  have rows := @rows_stand_for_users {} _ rfl draws
  constructor
  · apply rows.1 ⟨⟨1, 0⟩, ⟨"", ""⟩, .plain⟩ (.change promotion) promoted trivial
    exact ⟨_, Prod.ext given rfl⟩
  · apply rows.2
    refine .inl ⟨_, rfl, "GUEST", by simp, ?_⟩
    intro role
    cases role <;> decide

end Depot.Rows
