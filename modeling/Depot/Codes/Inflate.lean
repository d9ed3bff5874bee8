import Depot.Codes.Bits

/-!
Unpacking of deflated contents: blocks that are stored as they are, or written in two canonical
codes, one for bytes and lengths of copies and one for their distances.
-/

namespace Depot.Codes.Inflate

open Bytes (byteAt)

open BitScan

/-- The shortest copies and the extra bits that add to them, for the length symbols from 257 on. -/
def lengths : Array (Nat × Nat) :=
  #[(3, 0), (4, 0), (5, 0), (6, 0), (7, 0), (8, 0), (9, 0), (10, 0), (11, 1), (13, 1), (15, 1),
    (17, 1), (19, 2), (23, 2), (27, 2), (31, 2), (35, 3), (43, 3), (51, 3), (59, 3), (67, 4),
    (83, 4), (99, 4), (115, 4), (131, 5), (163, 5), (195, 5), (227, 5), (258, 0)]

def distances : Array (Nat × Nat) :=
  #[(1, 0), (2, 0), (3, 0), (4, 0), (5, 1), (7, 1), (9, 2), (13, 2), (17, 3), (25, 3), (33, 4),
    (49, 4), (65, 5), (97, 5), (129, 6), (193, 6), (257, 7), (385, 7), (513, 8), (769, 8),
    (1025, 9), (1537, 9), (2049, 10), (3073, 10), (4097, 11), (6145, 11), (8193, 12), (12289, 12),
    (16385, 13), (24577, 13)]

def fromTable (table : Array (Nat × Nat)) (index : Nat) : BitScan Nat :=
  match table[index]? with
  | none => failure
  | some (base, extra) => do return base + (← bits extra)

def copyBack (out : ByteArray) (distance : Nat) : Nat → ByteArray
  | 0 => out
  | count + 1 => copyBack (out.push (byteAt out (out.size - distance))) distance count

/-- Unpacks symbols up to the end of a block. Every symbol takes a bit at least, so the number of
bits is `fuel` enough. -/
def symbols (plain far : Canonical) : (fuel : Nat) → ByteArray → BitScan ByteArray
  | 0, _ => failure
  | fuel + 1, out => do
    let next ← symbol plain
    if next < 256 then symbols plain far fuel (out.push (UInt8.ofNat next))
    else if next = 256 then return out
    else
      let length ← fromTable lengths (next - 257)
      let distance ← fromTable distances (← symbol far)
      need (distance ≤ out.size)
      symbols plain far fuel (copyBack out distance length)

def stored (out : ByteArray) : BitScan ByteArray := do
  align
  let length ← bits 16
  let check ← bits 16
  need (length + check = 0xffff)
  let start := (← pass (8 * length)) / 8
  return out ++ (← read).extract start (start + length)

def fixedLengths : Array Nat :=
  Array.replicate 144 8 ++ Array.replicate 112 9 ++ Array.replicate 24 7 ++ Array.replicate 8 8

def fixedPlain : Canonical := .ofLengths 15 fixedLengths
def fixedFar : Canonical := .ofLengths 15 (Array.replicate 30 5)

def lengthOrder : List Nat := [16, 17, 18, 0, 8, 7, 9, 6, 10, 5, 11, 4, 12, 3, 13, 2, 14, 1, 15]

def wordLengths (code : Canonical) (total : Nat) : (fuel : Nat) → Array Nat → BitScan (Array Nat)
  | 0, found => if found.size = total then pure found else failure
  | fuel + 1, found => do
    if total ≤ found.size then
      need (found.size = total)
      return found
    match ← symbol code with
    | 16 =>
      need (!found.isEmpty)
      let count := 3 + (← bits 2)
      wordLengths code total fuel (found ++ Array.replicate count (found.getD (found.size - 1) 0))
    | 17 =>
      let count := 3 + (← bits 3)
      wordLengths code total fuel (found ++ Array.replicate count 0)
    | 18 =>
      let count := 11 + (← bits 7)
      wordLengths code total fuel (found ++ Array.replicate count 0)
    | length => wordLengths code total fuel (found.push length)

def ownCodes : BitScan (Canonical × Canonical) := do
  let plainCount := 257 + (← bits 5)
  let farCount := 1 + (← bits 5)
  let given := 4 + (← bits 4)
  let mut table := Array.replicate 19 0
  for place in lengthOrder.take given do
    table := table.setIfInBounds place (← bits 3)
  let code := Canonical.ofLengths 7 table
  need code.isComplete
  let total := plainCount + farCount
  let found ← wordLengths code total total #[]
  let plain := Canonical.ofLengths 15 (found.extract 0 plainCount)
  let far := Canonical.ofLengths 15 (found.extract plainCount total)
  need (plain.isComplete && (far.isComplete || far.symbols.size ≤ 1))
  return (plain, far)

def blocks (work : Nat) : (fuel : Nat) → ByteArray → BitScan ByteArray
  | 0, _ => failure
  | fuel + 1, out => do
    let isLast ← flag
    let out ← match ← bits 2 with
      | 0 => stored out
      | 1 => symbols fixedPlain fixedFar work out
      | 2 =>
        let (plain, far) ← ownCodes
        symbols plain far work out
      | _ => failure
    if isLast then return out else blocks work fuel out

def unpack? (bytes : ByteArray) : Option ByteArray :=
  let work := 8 * bytes.size + 1
  BitScan.ofContent (blocks work work ByteArray.empty) bytes

/-- Unpacks a deflated content behind the two bytes that name the way of packing. The sum at the
end is not looked at. -/
def unpackNamed? (bytes : ByteArray) : Option ByteArray :=
  let method := (byteAt bytes 0).toNat
  let flags := (byteAt bytes 1).toNat
  if bytes.size < 2 ∨ method % 16 ≠ 8 ∨ 7 < method / 16 ∨ (256 * method + flags) % 31 ≠ 0 ∨
      flags / 32 % 2 = 1 then none
  else unpack? (bytes.extract 2 bytes.size)

end Depot.Codes.Inflate
