import Depot.Text.Blank
import Depot.Text.Lowercase
import Depot.Failure

/-!
User names. A name is made from any text by taking it to a slug: small letters, digits and single
underscores, computed in one pass.
-/

namespace Depot.Accounts

inductive UsernameFault
  | tooShort
  | tooLong
  | forbiddenCharacter
deriving DecidableEq, Repr

def UsernameFault.message : UsernameFault → String
  | .tooShort => "username must be at least 3 characters"
  | .tooLong => "username must be at most 32 characters"
  | .forbiddenCharacter =>
    "username can only contain lowercase letters, numbers, and underscores"

def UsernameFault.failure (fault : UsernameFault) : Failure := .invalid fault.message

def isNameChar (c : Char) : Bool :=
  ('a' ≤ c && c ≤ 'z') || ('0' ≤ c && c ≤ '9') || c == '_'

def foldAccent (c : Char) : Char :=
  if c ∈ ['à', 'á', 'â', 'ã', 'ä', 'å'] then 'a'
  else if c = 'ç' then 'c'
  else if c ∈ ['è', 'é', 'ê', 'ë'] then 'e'
  else if c ∈ ['ì', 'í', 'î', 'ï'] then 'i'
  else if c = 'ñ' then 'n'
  else if c ∈ ['ò', 'ó', 'ô', 'õ', 'ö'] then 'o'
  else if c ∈ ['ù', 'ú', 'û', 'ü'] then 'u'
  else if c ∈ ['ý', 'ÿ'] then 'y'
  else c

/-- Adds a folded character to a slug, which is kept in reverse. A blank or an underscore adds an
underscore unless one is there already; a letter or digit is added; anything else is dropped. -/
def slugStep (slug : List Char) (c : Char) : List Char :=
  if Text.isBlank c ∨ c = '_' then
    if slug.head? = some '_' then slug else '_' :: slug
  else if isNameChar c then c :: slug
  else slug

def foldedChars (s : String) : List Char :=
  ((Text.trim s).toList.flatMap Text.lower).map foldAccent

def slug (s : String) : String :=
  String.ofList (Text.trimBy (· == '_') ((foldedChars s).foldl slugStep []).reverse)

def checkUsername (s : String) : Option UsernameFault :=
  if s.utf8ByteSize < 3 then some .tooShort
  else if 32 < s.utf8ByteSize then some .tooLong
  else if s.toList.all isNameChar then none
  else some .forbiddenCharacter

structure Username where
  text : String
  allowed : checkUsername text = none
deriving DecidableEq

namespace Username

instance : Repr Username := ⟨fun name _ => name.text⟩

def check (s : String) : Except UsernameFault Username :=
  match h : checkUsername s with
  | none => .ok ⟨s, h⟩
  | some fault => .error fault

def parse (s : String) : Except UsernameFault Username := check (slug s)

end Username

end Depot.Accounts
