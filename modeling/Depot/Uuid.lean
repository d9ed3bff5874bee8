import Depot.Text.Hex

/-!
Record identifiers: 128-bit numbers with a written form of 32 small hexadecimal digits in groups of
8, 4, 4, 4 and 12. Reading also takes capitals, the digits without hyphens, and the hyphenated form
in braces or behind a `urn:uuid:` mark.
-/

namespace Depot

abbrev Uuid.count : Nat := 0x100000000000000000000000000000000

structure Uuid where
  value : Fin Uuid.count
deriving DecidableEq

namespace Uuid

def nil : Uuid := ⟨0⟩

instance : Inhabited Uuid := ⟨nil⟩

def ofNat (n : Nat) : Uuid := ⟨Fin.ofNat count n⟩

def digits : Nat → Nat → List Char
  | 0, _ => []
  | count + 1, n => digits count (n / 16) ++ [Text.hexDigit (n % 16)]

def hyphenate (ds : List Char) : List Char :=
  ds.take 8 ++ '-' :: (ds.drop 8).take 4 ++ '-' :: (ds.drop 12).take 4 ++ '-' ::
    (ds.drop 16).take 4 ++ '-' :: ds.drop 20

def text (id : Uuid) : String := String.ofList (hyphenate (digits 32 id.value))

instance : ToString Uuid := ⟨text⟩
instance : Repr Uuid := ⟨fun id _ => id.text⟩

def number? : Nat → List Char → Option Nat
  | value, [] => some value
  | value, c :: cs => (Text.hexValue? c).bind fun d => number? (16 * value + d) cs

def unhyphenate? (cs : List Char) : Option (List Char) :=
  if cs[8]? = some '-' ∧ cs[13]? = some '-' ∧ cs[18]? = some '-' ∧ cs[23]? = some '-' then
    some (cs.take 8 ++ (cs.drop 9).take 4 ++ (cs.drop 14).take 4 ++ (cs.drop 19).take 4 ++
      cs.drop 24)
  else none

/-- The digits of a text in any of the accepted forms; the length tells which form it has. -/
def bareDigits? (cs : List Char) : Option (List Char) :=
  match cs.length with
  | 32 => some cs
  | 36 => unhyphenate? cs
  | 38 =>
    if cs.head? = some '{' ∧ cs.getLast? = some '}' then unhyphenate? ((cs.drop 1).take 36)
    else none
  | 45 =>
    if cs.take 9 = "urn:uuid:".toList ∨ cs.take 9 = "URN:UUID:".toList then
      unhyphenate? (cs.drop 9)
    else none
  | _ => none

def parse? (s : String) : Option Uuid :=
  (bareDigits? s.toList).bind fun ds => (number? 0 ds).map ofNat

end Uuid

end Depot
