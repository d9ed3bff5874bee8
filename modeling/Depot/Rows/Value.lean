import Depot.Failure
import Depot.Instant
import Depot.Json.Access

/-!
Talking to a relational store: statements with bound values, what comes back, and how failures of
the store are reported. A query is what is sent together with how the reply is read; where a record
does not fit the columns nothing is sent at all.
-/

namespace Depot.Rows

inductive Value
  | null
  | uuid (id : Uuid)
  | text (s : String)
  | int (n : Int)
  | texts (items : List String)
  | timestamp (time : Instant)
deriving DecidableEq, Repr

namespace Value

def ofOption (f : α → Value) : Option α → Value
  | some a => f a
  | none => null

def uuid? : Value → Option Uuid
  | uuid id => some id
  | _ => none

def text? : Value → Option String
  | text s => some s
  | _ => none

def int? : Value → Option Int
  | int n => some n
  | _ => none

def texts? : Value → Option (List String)
  | texts items => some items
  | _ => none

def timestamp? : Value → Option Instant
  | timestamp time => some time
  | _ => none

def nullable? (of? : Value → Option α) : Value → Option (Option α)
  | null => some none
  | value => (of? value).map some

/-- The value in the precision in which it is sent. -/
def sent : Value → Value
  | timestamp time => timestamp time.toRowPrecision
  | value => value

def json : Value → Json
  | null => .null
  | uuid id => .str id.text
  | text s => .str s
  | int n => .int n
  | texts items => .texts items
  | timestamp time => .str time.text

end Value

/-- A statement and the values of its places `$1`, `$2`, and so on. -/
structure Statement where
  sql : String
  params : List Value
deriving DecidableEq, Repr

abbrev Row := List (String × Value)

inductive Reply
  | done (rows : List Row) (affected : Nat)
  | refused (code message : String)

def uniqueViolation : String := "23505"

def refusal (context code message : String) : Failure :=
  if code = uniqueViolation then .alreadyExists (context ++ ": " ++ message)
  else .internal (context ++ ": error returned from database: " ++ message)

def corrupt (column detail : String) : Failure :=
  .internal ("invalid value in column " ++ column ++ ": " ++ detail)

def unreadable (context column : String) : Failure :=
  .internal (context ++ ": no column found for name: " ++ column)

namespace Row

variable (context : String) (row : Row)

def value (column : String) : Except Failure Value :=
  match row.lookup column with
  | some value => .ok value
  | none => .error (unreadable context column)

/-- The value of a column, of which `of?` tells the content if it is of the wanted kind. -/
def read (of? : Value → Option α) (column : String) : Except Failure α := do
  match of? (← row.value context column) with
  | some content => return content
  | none => throw (unreadable context column)

def text : String → Except Failure String := row.read context Value.text?

def optionalText : String → Except Failure (Option String) :=
  row.read context (Value.nullable? Value.text?)

def texts : String → Except Failure (List String) := row.read context Value.texts?

def uuid : String → Except Failure Uuid := row.read context Value.uuid?

def int : String → Except Failure Int := row.read context Value.int?

def optionalInt : String → Except Failure (Option Int) :=
  row.read context (Value.nullable? Value.int?)

def timestamp : String → Except Failure Instant := row.read context Value.timestamp?

end Row

/-- A statement to send, or the failure that keeps it from being sent, and how its reply is read. -/
structure Query (α : Type) where
  statement : Except Failure Statement
  read : Reply → Except Failure α

namespace Query

def run (query : Query α) (server : Statement → Reply) : Except Failure α × List Statement :=
  match query.statement with
  | .error failure => (.error failure, [])
  | .ok statement => (query.read (server statement), [statement])

end Query

/-- Reads all rows; the first one at fault decides. -/
def readAll (context : String) (ofRow : Row → Except Failure α) : Reply → Except Failure (List α)
  | .done rows _ => rows.mapM ofRow
  | .refused code message => .error (refusal context code message)

def readFirst (context : String) (ofRow : Row → Except Failure α) :
    Reply → Except Failure (Option α)
  | .done [] _ => .ok none
  | .done (row :: _) _ => (ofRow row).map some
  | .refused code message => .error (refusal context code message)

def readAffected (context : String) : Reply → Except Failure Nat
  | .done _ affected => .ok affected
  | .refused code message => .error (refusal context code message)

/-- Reads the outcome of an overwriting: a record that is not there is a failure. -/
def readOverwritten (context : String) (id : Uuid) (reply : Reply) : Except Failure Unit :=
  match readAffected context reply with
  | .error failure => .error failure
  | .ok affected => if affected = 0 then .error (.notFound id) else .ok ()

def readMigrated : Reply → Except Failure Unit
  | .done _ _ => .ok ()
  | .refused _ message => .error (.internal
      ("failed to run migrations: while executing migrations: error returned from database: " ++
        message))

end Depot.Rows
