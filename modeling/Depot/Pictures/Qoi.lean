import Depot.Bytes.Scan
import Depot.Pictures.Raster

/-!
Pictures in the format QOI: each point repeats the last colour, names one of 64 colours seen before,
or differs a little from the last colour; else the colour is written out. Eight bytes close the
picture.
-/

namespace Depot.Pictures.Qoi

open Bytes

def mostPoints : Nat := 400000000

structure Header where
  sides : Sides
  hasAlpha : Bool

def header : Scan Header := do
  let _ ← Scan.pass 4
  let sides : Sides := ⟨← Scan.high 4, ← Scan.high 4⟩
  let channels ← Scan.byte
  let space ← Scan.byte
  Scan.need ((channels = 3 || channels = 4) && space ≤ 1)
  Scan.need (0 < sides.area && sides.area ≤ mostPoints)
  return ⟨sides, channels = 4⟩

def sides? (bytes : ByteArray) : Option Sides := (header.ofContent bytes).map (·.sides)

def shelf (c : Colour) : Nat :=
  (c.red.toNat * 3 + c.green.toNat * 5 + c.blue.toNat * 7 + c.alpha.toNat * 11) % 64

def Colour.moved (c : Colour) (red green blue : UInt8) : Colour :=
  ⟨c.red + red, c.green + green, c.blue + blue, c.alpha⟩

/-- The next step: a colour and how often it comes, and whether it is kept among the colours seen.
-/
def step (hasAlpha : Bool) (seen : Array Colour) (last : Colour) : Scan (Colour × Nat × Bool) := do
  let tag ← Scan.byte
  if tag = 0xfe then
    let part ← Scan.take 3
    return (⟨byteAt part 0, byteAt part 1, byteAt part 2, last.alpha⟩, 1, true)
  else if tag = 0xff then
    Scan.need hasAlpha
    let part ← Scan.take 4
    return (⟨byteAt part 0, byteAt part 1, byteAt part 2, byteAt part 3⟩, 1, true)
  else
    let low := tag % 64
    match tag / 64 with
    | 0 => return (seen.getD low .clear, 1, false)
    | 1 =>
      let part (n : Nat) : UInt8 := UInt8.ofNat n - 2
      return (Colour.moved last (part (low / 16)) (part (low / 4 % 4)) (part (low % 4)), 1, true)
    | 2 =>
      let more ← Scan.byte
      let green := UInt8.ofNat low - 32
      return (Colour.moved last (green - 8 + UInt8.ofNat (more / 16)) green
        (green - 8 + UInt8.ofNat (more % 16)), 1, true)
    | _ => return (last, low + 1, false)

/-- Reads the points that are missing; each step brings one at least. -/
def points (hasAlpha : Bool) (total : Nat) :
    (fuel : Nat) → Array Colour → Colour → Array Colour → Scan (Array Colour)
  | 0, _, _, found => return found
  | fuel + 1, seen, last, found => do
    if total ≤ found.size then return found
    let (colour, count, isKept) ← step hasAlpha seen last
    let seen := if isKept then seen.setIfInBounds (shelf colour) colour else seen
    let found := if count = 1 then found.push colour
      else found ++ Array.replicate (min count (total - found.size)) colour
    points hasAlpha total fuel seen colour found

def picture : Scan Raster := do
  let header ← header
  Scan.need (header.sides.haveRoom (if header.hasAlpha then 4 else 3))
  let total := header.sides.area
  let found ← points header.hasAlpha total (← Scan.left) (Array.replicate 64 .clear)
    (Colour.solid 0 0 0) #[]
  Scan.expect [0, 0, 0, 0, 0, 0, 0, 1]
  Scan.given (Raster.ofColours? header.sides found)

def read? (bytes : ByteArray) : Option Raster := picture.ofContent bytes

end Depot.Pictures.Qoi
