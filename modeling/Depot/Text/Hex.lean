/-!
Bytes as pairs of hexadecimal digits. Writing uses small letters; reading takes either case.
-/

namespace Depot.Text

def hexDigit (n : Nat) : Char :=
  if n < 10 then Char.ofNat (48 + n) else Char.ofNat (87 + n)

def hexValue? (c : Char) : Option Nat :=
  if '0' ≤ c ∧ c ≤ '9' then some (c.toNat - 48)
  else if 'a' ≤ c ∧ c ≤ 'f' then some (c.toNat - 87)
  else if 'A' ≤ c ∧ c ≤ 'F' then some (c.toNat - 55)
  else none

def hexPair (b : UInt8) : List Char :=
  [hexDigit (b.toNat / 16), hexDigit (b.toNat % 16)]

def hex (bytes : ByteArray) : String :=
  bytes.foldl (fun s b => (s.push (hexDigit (b.toNat / 16))).push (hexDigit (b.toNat % 16))) ""

def unhexInto (acc : ByteArray) : List Char → Option ByteArray
  | [] => some acc
  | [_] => none
  | a :: b :: rest =>
    match hexValue? a, hexValue? b with
    | some h, some l => unhexInto (acc.push (UInt8.ofNat (16 * h + l))) rest
    | _, _ => none

def unhex? (s : String) : Option ByteArray := unhexInto ByteArray.empty s.toList

end Depot.Text
