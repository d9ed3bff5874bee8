import Depot.Bytes.Scan
import Depot.Number.Double
import Depot.Number.Power
import Depot.Pictures.Raster

/-!
Pictures in the format BMP: headers of several ages, then rows of points, usually the lowest row
first and each row filled up to a multiple of four bytes. Points are numbers of palette colours, or
words in which masks mark the parts of the colour; numbers may be packed as runs.
-/

namespace Depot.Pictures.Bmp

open Bytes

/-- The part of a word that a mask marks: where it starts and how many bits it has. -/
structure Part where
  shift : Nat
  width : Nat

namespace Part

def lowZeros (word : Nat) : (fuel : Nat) → Nat
  | 0 => 0
  | fuel + 1 => if word % 2 = 0 then 1 + lowZeros (word / 2) fuel else 0

/-- Reads a mask in words of `bits` bits; the marked bits have to stand together. -/
def ofMask? (bits mask : Nat) : Option Part :=
  if mask = 0 then some ⟨0, 0⟩
  else
    let shift := lowZeros mask 32
    let marked := mask / twoTo shift + 1
    let width := marked.log2
    if marked ≠ twoTo width ∨ bits < shift + width then none
    -- only the highest eight bits count
    else if 8 < width then some ⟨shift + width - 8, 8⟩
    else some ⟨shift, width⟩

def level (p : Part) (word : Nat) : UInt8 :=
  let largest := twoTo p.width - 1
  UInt8.ofNat (Number.divUp ((word / twoTo p.shift) % twoTo p.width * 255) largest)

end Part

structure Parts where
  red : Part
  green : Part
  blue : Part
  alpha : Option Part

def Parts.colour (p : Parts) (word : Nat) : Colour :=
  ⟨p.red.level word, p.green.level word, p.blue.level word,
    match p.alpha with
    | some alpha => alpha.level word
    | none => 255⟩

inductive Writing
  | palette (depth : Nat) (colours : ByteArray) (entry : Nat)
  | words (bytes : Nat) (parts : Parts)
  | runs (depth : Nat) (colours : ByteArray) (entry : Nat)

structure Layout where
  sides : Sides
  topDown : Bool
  writing : Writing

def longestSide : Nat := 0xffff

def signed (word : Nat) : Int := if word < twoTo 31 then word else (word : Int) - twoTo 32

def plainParts (alpha : Option Part) : Parts := ⟨⟨16, 8⟩, ⟨8, 8⟩, ⟨0, 8⟩, alpha⟩

def shortParts : Parts := ⟨⟨10, 5⟩, ⟨5, 5⟩, ⟨0, 5⟩, none⟩

def parts (bits : Nat) (hasAlpha : Bool) : Scan Parts := do
  let part : Scan Part := do Scan.given (Part.ofMask? bits (← Scan.low 4))
  let red ← part
  let green ← part
  let blue ← part
  let alpha ← if hasAlpha then part else pure ⟨0, 0⟩
  Scan.need (0 < red.width && 0 < green.width && 0 < blue.width)
  return ⟨red, green, blue, if 0 < alpha.width then some alpha else none⟩

def oldLayout : Scan Layout := do
  let sides : Sides := ⟨← Scan.low 2, ← Scan.low 2⟩
  Scan.need ((← Scan.low 2) = 1)
  match ← Scan.low 2 with
  | 24 => return ⟨sides, false, .words 3 (plainParts none)⟩
  | depth =>
    Scan.need (depth = 1 || depth = 4 || depth = 8)
    return ⟨sides, false, .palette depth (← Scan.take (3 * twoTo depth)) 3⟩

/-- Reads a header of at least 40 bytes that ends at `ending`. The fourth byte of plain words of
four bytes counts only if the caller says so. -/
def newLayout (length ending : Nat) (wordsHaveAlpha : Bool) : Scan Layout := do
  let width := signed (← Scan.low 4)
  let height := signed (← Scan.low 4)
  Scan.need (0 ≤ width && width ≤ longestSide && height ≤ longestSide && height ≠ -2147483648)
  let topDown := decide (height < 0)
  Scan.need ((← Scan.low 2) = 1)
  let depth ← Scan.low 2
  let packing ← Scan.low 4
  Scan.need (!topDown || packing = 0 || packing = 3)
  let _ ← Scan.pass 12
  let used ← Scan.low 4
  let _ ← Scan.pass 4
  let sides : Sides := ⟨width.toNat, height.natAbs⟩
  let colours : Scan ByteArray := do
    Scan.goTo ending
    Scan.need (used ≤ twoTo depth)
    Scan.take (4 * if used = 0 then twoTo depth else used)
  match packing, depth with
  | 0, 1 | 0, 2 | 0, 4 | 0, 8 => return ⟨sides, topDown, .palette depth (← colours) 4⟩
  | 0, 16 =>
    Scan.goTo ending
    return ⟨sides, topDown, .words 2 shortParts⟩
  | 0, 24 =>
    Scan.goTo ending
    return ⟨sides, topDown, .words 3 (plainParts none)⟩
  | 0, 32 =>
    Scan.goTo ending
    return ⟨sides, topDown, .words 4 (plainParts (if wordsHaveAlpha then some ⟨24, 8⟩ else none))⟩
  | 1, 8 | 2, 4 => return ⟨sides, topDown, .runs depth (← colours) 4⟩
  | 3, 16 | 3, 32 =>
    let parts ← parts depth (56 ≤ length)
    Scan.goTo (ending + if length = 40 then 12 else 0)
    return ⟨sides, topDown, .words (depth / 8) parts⟩
  | _, _ => failure

def layout (wordsHaveAlpha : Bool) : Scan Layout := do
  let start ← Scan.place
  let length ← Scan.low 4
  if length = 12 then oldLayout
  else
    Scan.need (length = 40 || length = 52 || length = 56 || length = 108 || length = 124)
    newLayout length (start + length) wordsHaveAlpha

def fileLayout : Scan (Layout × Nat) := do
  let _ ← Scan.pass 10
  let points ← Scan.low 4
  return (← layout false, points)

def sides? (bytes : ByteArray) : Option Sides :=
  (fileLayout.ofContent bytes).map fun (layout, _) => layout.sides

/-! ## Points -/

/-- The bytes of a row, filled up to a multiple of four. -/
def lineOf (width bits : Nat) : Nat := (width * bits + 31) / 32 * 4

def colourOf (colours : ByteArray) (entry number : Nat) : Colour :=
  let place := entry * number
  .solid (byteAt colours (place + 2)) (byteAt colours (place + 1)) (byteAt colours place)

def Layout.rowOf (l : Layout) (y : Nat) : Nat := if l.topDown then y else l.sides.height - 1 - y

/-- Points that stand in rows; `colour` reads the point at an index of the row that starts at a
place of the content. -/
def inRows (l : Layout) (bits : Nat) (colour : ByteArray → Nat → Nat → Colour) : Scan Raster := do
  let line := lineOf l.sides.width bits
  let start ← Scan.pass (line * l.sides.height)
  let bytes ← read
  return .ofFn l.sides fun x y => colour bytes (start + line * l.rowOf y) x

/-- The points of packed rows, from the first one on, as numbers of colours. -/
structure Runs where
  numbers : Array (Option UInt8)
  x : Nat := 0
  y : Nat := 0

def Runs.put (width : Nat) (r : Runs) (numbers : List UInt8) : Runs :=
  numbers.foldl (fun r number =>
    if r.x < width then
      { r with numbers := r.numbers.setIfInBounds (r.y * width + r.x) (some number), x := r.x + 1 }
    else r) r

def numbersIn (depth : Nat) (bytes : List Nat) : List UInt8 :=
  if depth = 8 then bytes.map UInt8.ofNat
  else bytes.flatMap fun b => [UInt8.ofNat (b / 16), UInt8.ofNat (b % 16)]

/-- Unpacks runs: a count and a byte to repeat, or a command behind a zero. -/
def unpackRuns (sides : Sides) (depth : Nat) : (fuel : Nat) → Runs → Scan Runs
  | 0, r => return r
  | fuel + 1, r => do
    if sides.height ≤ r.y then return r
    let count ← Scan.byte
    let value ← Scan.byte
    if 0 < count then
      let both := numbersIn depth [value]
      unpackRuns sides depth fuel
        (r.put sides.width ((List.range count).map fun i => both.getD (i % both.length) 0))
    else
      match value with
      | 0 => unpackRuns sides depth fuel { r with x := 0, y := r.y + 1 }
      | 1 => return r
      | 2 =>
        let right ← Scan.byte
        let up ← Scan.byte
        unpackRuns sides depth fuel { r with x := r.x + right, y := r.y + up }
      | count =>
        let length := (count * depth + 15) / 16 * 2
        let bytes ← Scan.take length
        unpackRuns sides depth fuel
          (r.put sides.width ((numbersIn depth (bytes.toList.map UInt8.toNat)).take count))

def points (l : Layout) : Scan Raster := do
  Scan.need (l.sides.haveRoom 4)
  match l.writing with
  | .palette depth colours entry =>
    inRows l depth fun bytes start x =>
      let b := (byteAt bytes (start + x * depth / 8)).toNat
      colourOf colours entry ((b >>> (8 - depth - x * depth % 8)) % twoTo depth)
  | .words count parts =>
    inRows l (8 * count) fun bytes start x =>
      parts.colour (lowFirst bytes (start + count * x) count)
  | .runs depth colours entry =>
    let runs ← unpackRuns l.sides depth (← Scan.left)
      { numbers := Array.replicate l.sides.area none }
    return .ofFn l.sides fun x y =>
      match runs.numbers.getD (l.rowOf y * l.sides.width + x) none with
      | some number => colourOf colours entry number.toNat
      | none => .solid 0 0 0

def picture : Scan Raster := do
  let (layout, start) ← fileLayout
  Scan.goTo start
  points layout

def read? (bytes : ByteArray) : Option Raster := picture.ofContent bytes

end Depot.Pictures.Bmp
