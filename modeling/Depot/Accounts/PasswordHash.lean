import Depot.Digests.Argon2
import Depot.Draws
import Depot.Failure
import Depot.Text.Base64
import Depot.Text.Literal
import Depot.Text.Pieces

/-!
Passwords as they are stored: a text with the name of the digest, its version and cost, the salt
and the digest itself, each behind a dollar sign. A stored text says everything that is needed to
check a password, and the cost in it is the one that counts.
-/

namespace Depot.Accounts

open Digests

structure PasswordHash where
  algorithm : String
  version : Option Nat := none
  cost : List (String × String) := []
  salt : Option String := none
  digest : Option (List UInt8) := none
deriving DecidableEq, Repr

namespace PasswordHash

/-! ## Reading -/

def isName (s : String) : Bool :=
  let cs := s.toList
  1 ≤ cs.length && cs.length ≤ 32 &&
    cs.all fun c => ('a' ≤ c && c ≤ 'z') || ('0' ≤ c && c ≤ '9') || c == '-'

def isValue (s : String) : Bool :=
  let cs := s.toList
  cs.length ≤ 64 && cs.all fun c =>
    ('A' ≤ c && c ≤ 'Z') || ('a' ≤ c && c ≤ 'z') || ('0' ≤ c && c ≤ '9') || c ∈ ['/', '+', '.', '-']

def number? (value : String) : Option Nat :=
  let cs := value.toList
  let isPlain := cs.all (fun c => '0' ≤ c && c ≤ '9') && !(cs.head? = some '0' && 1 < cs.length)
  if isPlain then (Text.unsigned Text.maxWord32 value).toOption else none

def version? (field : List Char) : Option Nat :=
  let value := String.ofList (field.drop 2)
  if isValue value then number? value else none

def isVersion (field : List Char) : Bool := ['v', '='].isPrefixOf field && !field.contains ','

def entry? (text : List Char) : Option (String × String) :=
  match (Text.cutAt '=' text).map String.ofList with
  | [name, value] => if isName name && isValue value then some (name, value) else none
  | _ => none

def cost? (field : List Char) : Option (List (String × String)) :=
  if 127 < (String.ofList field).utf8ByteSize then none
  else (Text.cutAt ',' field).mapM entry?

def salt? (field : List Char) : Option String :=
  let salt := String.ofList field
  if 4 ≤ salt.utf8ByteSize ∧ isValue salt then some salt else none

def digest? (field : List Char) : Option (List UInt8) := do
  let bytes ← Text.unbase64? (String.ofList field)
  guard (10 ≤ bytes.length ∧ bytes.length ≤ 64)
  return bytes

def readEnd (found : PasswordHash) : List (List Char) → Option PasswordHash
  | [] => some found
  | [salt] => do return { found with salt := some (← salt? salt) }
  | [salt, digest] => do
    return { found with salt := some (← salt? salt), digest := some (← digest? digest) }
  | _ => none

def readCost (found : PasswordHash) : List (List Char) → Option PasswordHash
  | [] => some found
  | field :: rest =>
    if field.contains '=' then do readEnd { found with cost := ← cost? field } rest
    else readEnd found (field :: rest)

def readVersion (found : PasswordHash) : List (List Char) → Option PasswordHash
  | [] => some found
  | field :: rest =>
    if isVersion field then do readCost { found with version := some (← version? field) } rest
    else readCost found (field :: rest)

def parse? (text : String) : Option PasswordHash :=
  match Text.cutAt '$' text.toList with
  | [] :: name :: rest =>
    let algorithm := String.ofList name
    if isName algorithm then readVersion { algorithm } rest else none
  | _ => none

/-! ## Writing -/

def entriesOf (cost : Argon2.Cost) : List (String × String) :=
  [("m", Text.decimal cost.memory), ("t", Text.decimal cost.passes), ("p", Text.decimal cost.lanes)]

def text (hash : PasswordHash) : String :=
  let version := match hash.version with
    | some n => "$v=" ++ Text.decimal n
    | none => ""
  let entries := ",".intercalate (hash.cost.map fun (name, value) => name ++ "=" ++ value)
  let cost := if hash.cost.isEmpty then "" else "$" ++ entries
  let salt := match hash.salt with
    | some salt => "$" ++ salt
    | none => ""
  let digest := match hash.digest with
    | some bytes => "$" ++ Text.base64 bytes
    | none => ""
  "$" ++ hash.algorithm ++ version ++ cost ++ salt ++ digest

/-! ## Making and checking -/

def choice? : String → Option Argon2.Choice
  | "argon2d" => some .d
  | "argon2i" => some .i
  | "argon2id" => some .id
  | _ => none

def versionOf? : Nat → Option Argon2.Version
  | 0x10 => some .replacing
  | 0x13 => some .adding
  | _ => none

/-- Takes an entry into a cost. A key's name is checked, but does not count. -/
def takeEntry (cost : Argon2.Cost) : String × String → Option Argon2.Cost
  | ("m", value) => (number? value).map ({ cost with memory := · })
  | ("t", value) => (number? value).map ({ cost with passes := · })
  | ("p", value) => (number? value).map ({ cost with lanes := · })
  | ("keyid", value) =>
    match Text.unbase64? value with
    | some bytes => if bytes.length ≤ 8 then some cost else none
    | none => none
  | ("data", value) =>
    match Text.unbase64? value with
    | some bytes => if bytes.length ≤ 32 then some { cost with data := ⟨bytes.toArray⟩ } else none
    | none => none
  | _ => none

def isPossible (cost : Argon2.Cost) : Bool :=
  8 ≤ cost.memory && 8 * cost.lanes ≤ cost.memory && 1 ≤ cost.passes && 1 ≤ cost.lanes &&
    cost.lanes ≤ 0xffffff

def costOf? (hash : PasswordHash) (length : Nat) : Option Argon2.Cost := do
  let cost ← hash.cost.foldlM takeEntry ({ length } : Argon2.Cost)
  guard (isPossible cost)
  let choice ← choice? hash.algorithm
  let version ← match hash.version with
    | some n => versionOf? n
    | none => some .adding
  return { cost with choice, version }

def saltBytes? (salt : String) : Option (List UInt8) :=
  match Text.unbase64? salt with
  | some bytes => if 8 ≤ bytes.length then some bytes else none
  | none => none

def content (bytes : List UInt8) : ByteArray := ⟨bytes.toArray⟩

/-- Whether a password belongs to a stored text. Without salt or digest none does. -/
def verify (password text : String) : Except Failure Bool :=
  match parse? text with
  | none => .error (.internal "invalid password hash format: a field is missing or malformed")
  | some hash =>
    match hash.salt, hash.digest with
    | some salt, some digest =>
      match hash.costOf? digest.length, saltBytes? salt with
      | some cost, some salt =>
        .ok ((Argon2.digest cost password.toUTF8 (content salt)).toList == digest)
      | _, _ => .error (.internal "password verification failed: cost or salt not allowed")
    | _, _ => .ok false

def newSalt (draws : Draws) : List UInt8 := ((draws.take 0 255 16).1).map UInt8.ofNat

def make (salt : List UInt8) (password : String) : PasswordHash :=
  let cost : Argon2.Cost := {}
  { algorithm := "argon2id", version := some cost.version.number, cost := entriesOf cost
    salt := some (Text.base64 salt)
    digest := some (Argon2.digest cost password.toUTF8 (content salt)).toList }

end PasswordHash

end Depot.Accounts
