/-!
Reading bytes as text. A character takes one to four bytes; overlong forms, surrogates and values
past the last code point are no characters. Three readings are offered: all or nothing, with a
replacement character for every broken piece, and up to the first broken piece.
-/

namespace Depot.Text

/-- A character of which some bytes have been read: how many are missing, the number formed so far,
and the range in which the next byte has to lie. -/
structure PartialChar where
  missing : Nat
  value : Nat
  low : UInt8 := 0x80
  high : UInt8 := 0xBF

/-- What the first byte of a piece gives: a character, a broken piece, or the start of a character.
The range of the second byte shuts out overlong forms, surrogates and values past the last. -/
def beginChar (b : UInt8) : List (Option Char) × Option PartialChar :=
  if b < 0x80 then ([some (Char.ofNat b.toNat)], none)
  else if b < 0xC2 then ([none], none)
  else if b < 0xE0 then ([], some { missing := 1, value := b.toNat % 32 })
  else if b == 0xE0 then ([], some { missing := 2, value := 0, low := 0xA0 })
  else if b == 0xED then ([], some { missing := 2, value := 13, high := 0x9F })
  else if b < 0xF0 then ([], some { missing := 2, value := b.toNat % 16 })
  else if b == 0xF0 then ([], some { missing := 3, value := 0, low := 0x90 })
  else if b < 0xF4 then ([], some { missing := 3, value := b.toNat % 8 })
  else if b == 0xF4 then ([], some { missing := 3, value := 4, high := 0x8F })
  else ([none], none)

/-- Reads one byte. A byte that does not go on with the open character ends it as a broken piece and
begins the next one. -/
def advanceChar (state : Option PartialChar) (b : UInt8) :
    List (Option Char) × Option PartialChar :=
  match state with
  | none => beginChar b
  | some open' =>
    if open'.low ≤ b ∧ b ≤ open'.high then
      let value := 64 * open'.value + b.toNat % 64
      if open'.missing ≤ 1 then ([some (Char.ofNat value)], none)
      else ([], some { missing := open'.missing - 1, value := value })
    else
      let (pieces, state) := beginChar b
      (none :: pieces, state)

def pieces : Option PartialChar → List UInt8 → List (Option Char)
  | none, [] => []
  | some _, [] => [none]
  | state, b :: bs => (advanceChar state b).1 ++ pieces (advanceChar state b).2 bs

def ofUtf8? (bytes : ByteArray) : Option String := String.fromUTF8? bytes

/-- The text of any bytes, each broken piece shown as the replacement character. -/
def ofUtf8Lossy (bytes : ByteArray) : String :=
  match ofUtf8? bytes with
  | some s => s
  | none => String.ofList ((pieces none bytes.toList).map (·.getD (Char.ofNat 0xFFFD)))

def leadingText (bytes : ByteArray) : List Char :=
  match ofUtf8? bytes with
  | some s => s.toList
  | none => ((pieces none bytes.toList).takeWhile (·.isSome)).filterMap id

end Depot.Text
