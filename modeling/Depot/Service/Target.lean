import Depot.Text.Hex
import Depot.Text.Literal
import Depot.Text.Pieces
import Depot.Text.Utf8

/-!
The target of a request: a path and a query. A path is taken apart first and its parts are decoded
afterwards, so that an encoded slash stays in its part. A query is a list of fields; a field that is
wanted may be given at most once, and others do not matter.
-/

namespace Depot.Service

def decodePercent : List UInt8 → List UInt8
  | [] => []
  | [a] => [a]
  | [a, b] => [a, b]
  | a :: b :: c :: rest =>
    match a == 0x25, Text.hexValue? (Char.ofNat b.toNat), Text.hexValue? (Char.ofNat c.toNat) with
    | true, some h, some l => UInt8.ofNat (16 * h + l) :: decodePercent rest
    | _, _, _ => a :: decodePercent (b :: c :: rest)

def decodedBytes (s : String) : ByteArray := ⟨(decodePercent s.toUTF8.toList).toArray⟩

/-- A part of a path once decoded; it has to be text. -/
def decodePart? (part : String) : Option String := Text.ofUtf8? (decodedBytes part)

/-- A name or value of a field once decoded: a plus stands for a blank, and what is no text is shown
as replacement characters. -/
def decodeField (cs : List Char) : String :=
  Text.ofUtf8Lossy (decodedBytes (String.ofList (cs.map fun c => if c = '+' then ' ' else c)))

abbrev Query := List (String × String)

/-- The fields that a query writes. A field without an equals sign has an empty value. -/
def Query.ofText (query : List Char) : Query :=
  ((Text.cutAt '&' query).filter (!·.isEmpty)).map fun field =>
    let (name, value) := Text.breakAt '=' field
    (decodeField name, decodeField (value.getD []))

namespace Query

/-- The value of a field that may be missing; a field that is given twice is refused. -/
def text? (query : Query) (name : String) : Option (Option String) :=
  match query.filter (·.1 == name) with
  | [] => some none
  | [(_, value)] => some (some value)
  | _ => none

/-- The value of a field, read by `read`, which has to succeed if the field is given. -/
def read? (query : Query) (name : String) (read : String → Option α) : Option (Option α) := do
  match ← query.text? name with
  | none => return none
  | some value => return some (← read value)

end Query

def wordUpTo? (largest : Nat) (s : String) : Option Nat :=
  (Text.unsigned largest s).toOption

def word8? (s : String) : Option UInt8 := (wordUpTo? Text.maxWord8 s).map UInt8.ofNat
def word32? (s : String) : Option UInt32 := (wordUpTo? Text.maxWord32 s).map UInt32.ofNat
def word64? (s : String) : Option UInt64 := (wordUpTo? Text.maxWord64 s).map UInt64.ofNat
def int64? (s : String) : Option Int := (Text.signed Text.maxInt64 s).toOption

structure Target where
  path : String
  query : Query

/-- Takes a target apart. What follows a hash sign is not part of it. -/
def Target.ofText (s : String) : Target :=
  let (body, _) := Text.breakAt '#' s.toList
  let (path, query) := Text.breakAt '?' body
  ⟨String.ofList path, Query.ofText (query.getD [])⟩

end Depot.Service
