import Depot.Text.Literal
import Depot.Text.Hex

/-!
JSON values, their compact text, and the access to the members of a record. A whole number and a
number written with a fraction or an exponent are different values here, since only the former can
stand where a count is wanted.
-/

namespace Depot

/-- A JSON value. The members of an object keep their order. -/
inductive Json
  | null
  | bool (b : Bool)
  | int (n : Int)
  | real (written : String)
  | str (s : String)
  | arr (items : List Json)
  | obj (members : List (String × Json))
deriving Inhabited, BEq, Repr

namespace Json

def escapeChar (c : Char) : List Char :=
  if c = '"' then ['\\', '"']
  else if c = '\\' then ['\\', '\\']
  else if c = '\n' then ['\\', 'n']
  else if c = '\r' then ['\\', 'r']
  else if c = '\t' then ['\\', 't']
  else if c.toNat = 8 then ['\\', 'b']
  else if c.toNat = 12 then ['\\', 'f']
  else if c.toNat < 32 then
    ['\\', 'u', '0', '0', Text.hexDigit (c.toNat / 16), Text.hexDigit (c.toNat % 16)]
  else [c]

def quote (s : String) : String :=
  "\"" ++ String.ofList (s.toList.flatMap escapeChar) ++ "\""

mutual

def text : Json → String
  | null => "null"
  | bool b => if b then "true" else "false"
  | int n => Text.decimalInt n
  | real written => written
  | str s => quote s
  | arr items => "[" ++ textItems items ++ "]"
  | obj members => "\x7b" ++ textMembers members ++ "\x7d"

def textItems : List Json → String
  | [] => ""
  | [item] => text item
  | item :: rest => text item ++ "," ++ textItems rest

def textMembers : List (String × Json) → String
  | [] => ""
  | [(key, value)] => quote key ++ ":" ++ text value
  | (key, value) :: rest => quote key ++ ":" ++ text value ++ "," ++ textMembers rest

end

def ofOption (f : α → Json) : Option α → Json
  | some a => f a
  | none => null

def nat (n : Nat) : Json := int n

def string? : Json → Option String
  | str s => some s
  | _ => none

def natUpTo? (largest : Nat) : Json → Option Nat
  | int (.ofNat n) => if n ≤ largest then some n else none
  | _ => none

def nullable? (read : Json → Option α) : Json → Option (Option α)
  | null => some none
  | value => (read value).map some

def list? (read : Json → Option α) : Json → Option (List α)
  | arr items => items.mapM read
  | _ => none

/-- The value of a member; a member given twice is refused. -/
def member? (name : String) (members : List (String × Json)) : Option (Option Json) :=
  match members.filter (·.1 == name) with
  | [] => some none
  | [(_, value)] => some (some value)
  | _ => none

/-- The values of a record's members in the order of `names`. A record is written as an object,
whose other members do not matter, or as an array of the first values. -/
def record? (names : List String) : Json → Option (List (Option Json))
  | obj members => names.mapM (member? · members)
  | arr items =>
    if items.length ≤ names.length then
      some (items.map some ++ List.replicate (names.length - items.length) none)
    else none
  | _ => none

def tagged? : Json → Option (String × Json)
  | obj [(name, value)] => some (name, value)
  | _ => none

/-- The name of a plain tag: a string, or a tagged `null`. -/
def tag? : Json → Option String
  | str name => some name
  | obj [(name, null)] => some name
  | _ => none

end Json

end Depot
