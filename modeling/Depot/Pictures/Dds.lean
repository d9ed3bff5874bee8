import Depot.Bytes.Scan
import Depot.Number.Power
import Depot.Pictures.Raster

/-!
Pictures in the format DDS whose points stand in blocks of four by four. A block tells two colours,
and for every point which of them, or of the colours between them, it has. Some blocks tell the
strength of every point besides.
-/

namespace Depot.Pictures.Dds

open Bytes

/-- What a block tells about strength: nothing, a number for each point, or steps between two
numbers. -/
inductive Block
  | plain
  | strengths
  | steps
deriving DecidableEq, Repr

namespace Block

def size : Block → Nat
  | plain => 8
  | strengths | steps => 16

/-- The bytes that a point fills when it is unpacked. -/
def room : Block → Nat
  | plain => 3
  | strengths | steps => 4

def ofNumber? (number : Nat) : Option Block :=
  if 70 ≤ number ∧ number ≤ 72 then some plain
  else if 73 ≤ number ∧ number ≤ 75 then some strengths
  else if 76 ≤ number ∧ number ≤ 78 then some steps
  else none

end Block

structure Header where
  sides : Sides
  block : Block

def neededFlags : Nat := 0x1007

def knownFlags : Nat := 0x8a100f

def newerBlock : Scan Block := do
  let number ← Scan.low 4
  let dimension ← Scan.low 4
  let special ← Scan.low 4
  let count ← Scan.low 4
  let strength ← Scan.low 4
  Scan.need (number ≤ 132 && 2 ≤ dimension && dimension ≤ 4)
  Scan.need ((special = 0 || special = 4) && (dimension ≠ 4 || count = 1) && strength ≤ 4)
  Scan.given (Block.ofNumber? number)

def header : Scan Header := do
  Scan.expect [0x44, 0x44, 0x53, 0x20]
  Scan.need ((← Scan.low 4) = 124)
  let flags ← Scan.low 4
  Scan.need (flags &&& neededFlags = neededFlags && flags ||| knownFlags = knownFlags)
  let height ← Scan.low 4
  let width ← Scan.low 4
  let _ ← Scan.pass 56
  Scan.need ((← Scan.low 4) = 32)
  let marks ← Scan.low 4
  let name := (← Scan.take 4).toList
  let _ ← Scan.pass 40
  Scan.need (marks / 4 % 2 = 1)
  let block : Block ← match name with
    | [0x44, 0x58, 0x54, 0x31] => pure .plain
    | [0x44, 0x58, 0x54, 0x33] => pure .strengths
    | [0x44, 0x58, 0x54, 0x35] => pure .steps
    | [0x44, 0x58, 0x31, 0x30] => newerBlock
    | _ => failure
  let sides : Sides := ⟨width, height⟩
  Scan.need (sides.area * block.room < twoTo 64 && width % 4 = 0 && height % 4 = 0)
  return ⟨sides, block⟩

def sides? (bytes : ByteArray) : Option Sides := (header.ofContent bytes).map (·.sides)

/-! ## Blocks -/

def parts (word : Nat) : Array Nat :=
  #[word / 2048 * 255 / 31, word / 32 % 64 * 255 / 63, word % 32 * 255 / 31]

/-- The four colours that the points of a block choose from. A block without strengths whose first
colour is not above the second has one colour between them, and black. -/
def palette (first second : Nat) (alone : Bool) : Array (Array Nat) :=
  let a := parts first
  let b := parts second
  let between (part : Nat → Nat → Nat) : Array Nat :=
    #[part (a.getD 0 0) (b.getD 0 0), part (a.getD 1 0) (b.getD 1 0), part (a.getD 2 0) (b.getD 2 0)]
  if second < first ∨ ¬ alone then
    #[a, b, between fun x y => (2 * x + y + 1) / 3, between fun x y => (x + 2 * y + 1) / 3]
  else #[a, b, between fun x y => (x + y + 1) / 2, #[0, 0, 0]]

/-- The strengths that the points of a block choose from. With the first number not above the
second, the last two are the weakest and the strongest there are. -/
def strengths (first second : Nat) : Array Nat :=
  let between (count : Nat) : List Nat :=
    (List.range (count - 1)).map fun i => ((count - 1 - i) * first + (i + 1) * second) / count
  (if second < first then first :: second :: between 7
    else first :: second :: between 5 ++ [0, 255]).toArray

def colour (block : Block) (bytes : ByteArray) (place index : Nat) : Colour :=
  let tones := place + block.size - 8
  let colours := palette (lowFirst bytes tones 2) (lowFirst bytes (tones + 2) 2)
    (block = .plain)
  let chosen := lowFirst bytes (tones + 4) 4 / twoTo (2 * index) % 4
  let part (i : Nat) : UInt8 := UInt8.ofNat ((colours.getD chosen #[]).getD i 0)
  let strength := match block with
    | .plain => 255
    | .strengths => lowFirst bytes place 8 / twoTo (4 * index) % 16 * 17
    | .steps =>
      (strengths (byteAt bytes place).toNat (byteAt bytes (place + 1)).toNat).getD
        (lowFirst bytes (place + 2) 6 / twoTo (3 * index) % 8) 0
  ⟨part 0, part 1, part 2, UInt8.ofNat strength⟩

def picture : Scan Raster := do
  let ⟨sides, block⟩ ← header
  Scan.need (sides.haveRoom block.room)
  let across := sides.width / 4
  let start ← Scan.pass (across * (sides.height / 4) * block.size)
  let bytes ← read
  return .ofFn sides fun x y =>
    colour block bytes (start + (y / 4 * across + x / 4) * block.size) (y % 4 * 4 + x % 4)

def read? (bytes : ByteArray) : Option Raster := picture.ofContent bytes

end Depot.Pictures.Dds
