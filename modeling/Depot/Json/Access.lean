import Depot.Json.Value

/-!
Access to the members of JSON objects where a missing member has a usual value, and changes to all
strings within a value.
-/

namespace Depot.Json

/-- The value of a member; `null` where there is none. -/
def field (json : Json) (name : String) : Json :=
  match json with
  | obj members => (members.lookup name).getD null
  | _ => null

def textAt? (json : Json) (name : String) : Option String := (json.field name).string?

def textAt (json : Json) (name : String) (usual : String := "") : String :=
  (json.textAt? name).getD usual

def nat? : Json → Option Nat
  | int (.ofNat n) => some n
  | _ => none

def natAt? (json : Json) (name : String) : Option Nat := (json.field name).nat?

def intAt? (json : Json) (name : String) : Option Int :=
  match json.field name with
  | int n => some n
  | _ => none

def boolAt (json : Json) (name : String) (usual : Bool) : Bool :=
  match json.field name with
  | bool b => b
  | _ => usual

def itemsAt (json : Json) (name : String) : List Json :=
  match json.field name with
  | arr items => items
  | _ => []

def textsAt (json : Json) (name : String) : List String :=
  (json.itemsAt name).filterMap string?

def texts (strings : List String) : Json := arr (strings.map str)

mutual

/-- Changes every string of a value; the names of members stay. -/
def mapText (f : String → String) : Json → Json
  | str s => str (f s)
  | arr items => arr (mapTextItems f items)
  | obj members => obj (mapTextMembers f members)
  | other => other

def mapTextItems (f : String → String) : List Json → List Json
  | [] => []
  | item :: rest => mapText f item :: mapTextItems f rest

def mapTextMembers (f : String → String) : List (String × Json) → List (String × Json)
  | [] => []
  | (name, value) :: rest => (name, mapText f value) :: mapTextMembers f rest

end

end Depot.Json
