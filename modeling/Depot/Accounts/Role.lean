import Depot.Failure
import Depot.Json.Value

/-!
What an account is allowed to be: a regular one or one of an administrator.
-/

namespace Depot.Accounts

inductive Role
  | user
  | admin
deriving DecidableEq, Repr

namespace Role

def text : Role → String
  | user => "USER"
  | admin => "ADMIN"

def ofText? : String → Option Role
  | "USER" => some user
  | "ADMIN" => some admin
  | _ => none

def parse (s : String) : Except Failure Role :=
  match ofText? s with
  | some role => .ok role
  | none => .error (.invalid ("unknown role: " ++ s))

def json (role : Role) : Json := .str role.text

def ofJson? (json : Json) : Option Role := json.tag?.bind ofText?

end Role

end Depot.Accounts
