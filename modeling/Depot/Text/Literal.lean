/-!
Whole numbers and truth values written as text. A number has at most one sign, then one or more
ASCII digits, leading zeros allowed, and a value within given limits. A minus is a sign only where
negative values are allowed; elsewhere it is a stray character.
-/

namespace Depot.Text

inductive LiteralFault
  | nothing
  | strayCharacter
  | tooLarge
  | tooSmall
deriving DecidableEq, Repr

def LiteralFault.message : LiteralFault → String
  | .nothing => "cannot parse integer from empty string"
  | .strayCharacter => "invalid digit found in string"
  | .tooLarge => "number too large to fit in target type"
  | .tooSmall => "number too small to fit in target type"

def digit? (c : Char) : Option Nat :=
  if '0' ≤ c ∧ c ≤ '9' then some (c.toNat - 48) else none

/-- Adds the digits of a text to the value read so far. -/
def digits? : Nat → List Char → Option Nat
  | value, [] => some value
  | value, c :: cs => (digit? c).bind fun d => digits? (10 * value + d) cs

/-- The value of a text of one or more digits that is at most `largest`. A stray character is
reported only where no earlier digit has already passed the limit. -/
def magnitude (largest : Nat) (excess : LiteralFault) : Nat → List Char → Except LiteralFault Nat
  | value, [] => .ok value
  | value, c :: cs =>
    match digit? c with
    | none => .error .strayCharacter
    | some d =>
      if 10 * value + d ≤ largest then magnitude largest excess (10 * value + d) cs
      else .error excess

def unsigned (largest : Nat) (s : String) : Except LiteralFault Nat :=
  match s.toList with
  | [] => .error .nothing
  | ['+'] => .error .strayCharacter
  | '+' :: cs => magnitude largest .tooLarge 0 cs
  | cs => magnitude largest .tooLarge 0 cs

/-- Reads a number from `-(largest + 1)` to `largest`, as two's complement words hold. -/
def signed (largest : Nat) (s : String) : Except LiteralFault Int :=
  match s.toList with
  | [] => .error .nothing
  | ['+'] | ['-'] => .error .strayCharacter
  | '+' :: cs => (magnitude largest .tooLarge 0 cs).map Int.ofNat
  | '-' :: cs => (magnitude (largest + 1) .tooSmall 0 cs).map fun n => -Int.ofNat n
  | cs => (magnitude largest .tooLarge 0 cs).map Int.ofNat

def maxWord8 : Nat := 255
def maxWord16 : Nat := 65535
def maxWord32 : Nat := 4294967295
def maxWord64 : Nat := 18446744073709551615
def maxInt32 : Nat := 2147483647
def maxInt64 : Nat := 9223372036854775807

/-- Reads a truth value; no other spelling is accepted. -/
def bool? : String → Option Bool
  | "true" => some true
  | "false" => some false
  | _ => none

def boolMessage : String := "provided string was not `true` or `false`"

def decimal (n : Nat) : String := String.ofList (Nat.toDigits 10 n)

def decimalInt : Int → String
  | .ofNat n => decimal n
  | .negSucc n => "-" ++ decimal (n + 1)

def padded (width n : Nat) : String :=
  let digits := Nat.toDigits 10 n
  String.ofList (List.replicate (width - digits.length) '0' ++ digits)

end Depot.Text
