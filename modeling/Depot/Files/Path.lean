import Depot.Failure
import Depot.Instant
import Depot.Files.Owner

/-!
The place of a file: environment, year and month of the upload, kind and identifier of the owning
entity, and the name of the file. The written form joins them with slashes; only the name may hold
slashes of its own, so that the first five slashes of a written form are the joints.
-/

namespace Depot.Files

inductive PathFault
  | tooFewParts (given : String)
  | year (given : String)
  | month (given : String)
  | monthRange (month : Nat)
  | segment (name : String)
  | emptyName
deriving DecidableEq, Repr

namespace PathFault

def message : PathFault → String
  | tooFewParts s => "invalid file path format: " ++ s
  | year s => "invalid year in file path: " ++ s
  | month s => "invalid month in file path: " ++ s
  | monthRange n => "month must be between 1 and 12, got " ++ Text.decimal n
  | segment name => name ++ " must be a non-empty path segment"
  | emptyName => "filename must not be empty"

def failure (fault : PathFault) : Failure := .invalid fault.message

end PathFault

def isSegment (s : String) : Bool := !s.isEmpty && s.toList.all (· ≠ '/')

def checkPath (environment : String) (month : Nat) (entityType entityId filename : String) :
    Option PathFault :=
  if month < 1 ∨ 12 < month then some (.monthRange month)
  else if !isSegment environment then some (.segment "environment")
  else if !isSegment entityType then some (.segment "entity type")
  else if !isSegment entityId then some (.segment "entity id")
  else if filename.isEmpty then some .emptyName
  else none

structure Path where
  environment : String
  year : Int32
  month : Nat
  entityType : String
  entityId : String
  filename : String
  sound : checkPath environment month entityType entityId filename = none
deriving DecidableEq

namespace Path

def make (environment : String) (year : Int32) (month : Nat)
    (entityType entityId filename : String) : Except PathFault Path :=
  match h : checkPath environment month entityType entityId filename with
  | none => .ok ⟨environment, year, month, entityType, entityId, filename, h⟩
  | some fault => .error fault

def build (owner : Owner) (filename environment : String) (time : Instant) :
    Except PathFault Path :=
  make environment (Int32.ofInt time.date.year) time.date.month owner.entityType owner.entityId
    filename

def text (path : Path) : String :=
  path.environment ++ "/" ++ Text.decimalInt path.year.toInt ++ "/" ++ Text.padded 2 path.month ++
    "/" ++ path.entityType ++ "/" ++ path.entityId ++ "/" ++ path.filename

instance : Repr Path := ⟨fun path _ => path.text⟩

/-- Cuts a text at its first `count` slashes. -/
def cut : Nat → List Char → List (List Char)
  | 0, cs => [cs]
  | _ + 1, [] => [[]]
  | count + 1, c :: cs =>
    if c = '/' then [] :: cut count cs
    else
      match cut (count + 1) cs with
      | [] => [[c]]
      | part :: rest => (c :: part) :: rest

def parse (s : String) : Except PathFault Path :=
  match (cut 5 s.toList).map String.ofList with
  | [environment, year, month, entityType, entityId, filename] =>
    match Text.signed Text.maxInt32 year with
    | .error _ => .error (.year s)
    | .ok year =>
      match Text.unsigned Text.maxWord32 month with
      | .error _ => .error (.month s)
      | .ok month => make environment (Int32.ofInt year) month entityType entityId filename
  | _ => .error (.tooFewParts s)

end Path

end Depot.Files
