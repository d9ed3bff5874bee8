import Depot.Codes.Crc
import Depot.Codes.Inflate
import Depot.Number.Power
import Depot.Pictures.Raster

/-!
Pictures in the format PNG: a sequence of named chunks, each with a checksum. The first chunk tells
the sides and how points are written; the points are packed into chunks named IDAT, row by row, and
every row is written as its difference from a guess. An interlaced picture comes in seven passes.
-/

namespace Depot.Pictures.Png

open Bytes

inductive Colouring
  | grey
  | rgb
  | palette
  | greyAlpha
  | rgbAlpha
deriving DecidableEq, Repr

namespace Colouring

def ofNumber? : Nat → Option Colouring
  | 0 => some grey
  | 2 => some rgb
  | 3 => some palette
  | 4 => some greyAlpha
  | 6 => some rgbAlpha
  | _ => none

def samples : Colouring → Nat
  | grey | palette => 1
  | greyAlpha => 2
  | rgb => 3
  | rgbAlpha => 4

def allows (c : Colouring) (depth : Nat) : Bool :=
  match c with
  | grey => depth ∈ [1, 2, 4, 8, 16]
  | palette => depth ∈ [1, 2, 4, 8]
  | rgb | greyAlpha | rgbAlpha => depth ∈ [8, 16]

end Colouring

structure Header where
  sides : Sides
  colouring : Colouring
  depth : Nat
  interlaced : Bool

def Header.bits (h : Header) : Nat := h.colouring.samples * h.depth

structure Preface where
  header : Header
  palette : Option ByteArray := none
  /-- The strengths of those colours, or the one colour that is clear. -/
  clear : Option ByteArray := none

def Preface.room (p : Preface) : Nat :=
  let samples := match p.header.colouring, p.clear with
    | .palette, none => 3
    | .palette, some _ => 4
    | .grey, some _ | .rgb, some _ => p.header.colouring.samples + 1
    | _, _ => p.header.colouring.samples
  samples * (if p.header.depth = 16 then 2 else 1)

/-! ## Chunks -/

def opening : Scan (Nat × ByteArray) := do
  let length ← Scan.high 4
  return (length, ← Scan.take 4)

/-- Whether a name stands for a chunk that a reader must understand: it starts with a capital. -/
def isCritical (name : ByteArray) : Bool := byteAt name 0 &&& 0x20 == 0

/-- The content of a chunk behind its start. An error in a chunk that can be left out leaves it
out. -/
def content? (length : Nat) (name : ByteArray) : Scan (Option ByteArray) := do
  let bytes ← Scan.take length
  let sum ← Scan.high 4
  if (Codes.Crc.checksum (name ++ bytes)).toNat = sum then return some bytes
  Scan.need (!isCritical name)
  return none

def named (name : ByteArray) (text : String) : Bool := name == text.toUTF8

def header? (bytes : ByteArray) : Option Header := do
  guard (bytes.size = 13)
  let sides : Sides := ⟨highFirst bytes 0 4, highFirst bytes 4 4⟩
  guard (!sides.isEmpty)
  let depth := (byteAt bytes 8).toNat
  let colouring ← Colouring.ofNumber? (byteAt bytes 9).toNat
  guard (colouring.allows depth)
  guard (byteAt bytes 10 = 0 ∧ byteAt bytes 11 = 0 ∧ byteAt bytes 12 ≤ 1)
  return ⟨sides, colouring, depth, byteAt bytes 12 = 1⟩

def toPoints (preface : Preface) : (fuel : Nat) → Scan (Preface × Nat)
  | 0 => failure
  | fuel + 1 => do
    let (length, name) ← opening
    if named name "IDAT" then return (preface, length)
    Scan.need (!named name "IEND" && !named name "IHDR")
    let content ← content? length name
    if named name "PLTE" then
      Scan.need preface.palette.isNone
      toPoints { preface with palette := content } fuel
    else if named name "tRNS" then
      toPoints { preface with clear := content <|> preface.clear } fuel
    else toPoints preface fuel

def preface : Scan (Preface × Nat) := do
  let _ ← Scan.pass 8
  let (length, name) ← opening
  Scan.need (named name "IHDR")
  let content ← content? length name
  let header ← Scan.given (content.bind header?)
  -- the memory for all rows has to be countable in a word
  Scan.need ((header.sides.width * header.bits + 7) / 8 * header.sides.height < twoTo 64)
  toPoints { header } (← Scan.left)

/-- Collects the contents of the chunks of points; another chunk must begin behind the last one. -/
def packed (length : Nat) (found : ByteArray) : (fuel : Nat) → Scan ByteArray
  | 0 => failure
  | fuel + 1 => do
    let content ← Scan.given (← content? length "IDAT".toUTF8)
    let found := found ++ content
    let (next, name) ← opening
    if named name "IDAT" then packed next found fuel else return found

/-! ## Rows -/

/-- The one of three neighbours that is nearest to what a plane through them would have here. -/
def paeth (left up corner : Nat) : Nat :=
  let distance (n : Nat) : Nat := ((left + up : Int) - corner - n).natAbs
  if distance left ≤ distance up ∧ distance left ≤ distance corner then left
  else if distance up ≤ distance corner then up
  else corner

def guess? (filter left up corner : Nat) : Option Nat :=
  match filter with
  | 0 => some 0
  | 1 => some left
  | 2 => some up
  | 3 => some ((left + up) / 2)
  | 4 => some (paeth left up corner)
  | _ => none

/-- Adds the guesses to the bytes of a row. `back` is the distance of the byte to the left. -/
def restore? (filter back : Nat) (above row : ByteArray) : Option ByteArray :=
  (List.range row.size).foldlM (fun done i => do
    let leftOf (bytes : ByteArray) := if i < back then 0 else (byteAt bytes (i - back)).toNat
    let guess ← guess? filter (leftOf done) (byteAt above i).toNat (leftOf above)
    return done.push (byteAt row i + UInt8.ofNat guess)) ByteArray.empty

def rows? (data : ByteArray) (line back : Nat) :
    (count place : Nat) → ByteArray → Option (List ByteArray)
  | 0, _, _ => some []
  | count + 1, place, above => do
    let row ← restore? (byteAt data place).toNat back above
      (data.extract (place + 1) (place + 1 + line))
    return row :: (← rows? data line back count (place + 1 + line) row)

/-- A pass takes every `right`-th column from `left` on, and every `down`-th row from `top` on. -/
structure Pass where
  left : Nat
  top : Nat
  right : Nat
  down : Nat

def wholePass : Pass := ⟨0, 0, 1, 1⟩

def interlacedPasses : List Pass :=
  [⟨0, 0, 8, 8⟩, ⟨4, 0, 8, 8⟩, ⟨0, 4, 4, 8⟩, ⟨2, 0, 4, 4⟩, ⟨0, 2, 2, 4⟩, ⟨1, 0, 2, 2⟩, ⟨0, 1, 1, 2⟩]

def Header.passes (h : Header) : List Pass :=
  if h.interlaced then interlacedPasses else [wholePass]

def Pass.sides (p : Pass) (whole : Sides) : Sides :=
  ⟨(whole.width - p.left + p.right - 1) / p.right, (whole.height - p.top + p.down - 1) / p.down⟩

def Pass.brings (p : Pass) (x y : Nat) : Bool :=
  p.left ≤ x && p.top ≤ y && (x - p.left) % p.right = 0 && (y - p.top) % p.down = 0

def allRows? (h : Header) (data : ByteArray) :
    List Pass → (place : Nat) → Option (List (Pass × Array ByteArray))
  | [], _ => some []
  | pass :: rest, place => do
    let sides := pass.sides h.sides
    if sides.isEmpty then allRows? h data rest place
    else
      let line := (sides.width * h.bits + 7) / 8
      let behind := place + sides.height * (line + 1)
      guard (behind ≤ data.size)
      let rows ← rows? data line (max 1 (h.bits / 8)) sides.height place ByteArray.empty
      return (pass, rows.toArray) :: (← allRows? h data rest behind)

/-! ## Points -/

def sample (depth : Nat) (row : ByteArray) (index : Nat) : Nat :=
  if depth = 16 then highFirst row (2 * index) 2
  else ((byteAt row (index * depth / 8)).toNat >>> (8 - depth - index * depth % 8)) % twoTo depth

def level (depth : Nat) (value : Nat) : UInt8 :=
  if depth = 16 then UInt8.ofNat ((value + 128) / 257)
  else UInt8.ofNat (value * 255 / (twoTo depth - 1))

def Preface.isClear (p : Preface) (values : List Nat) : Bool :=
  match p.clear with
  | some bytes => values == (List.range values.length).map fun i =>
    highFirst bytes (2 * i) 2 % twoTo p.header.depth
  | none => false

def Preface.colour (p : Preface) (row : ByteArray) (x : Nat) : Colour :=
  let depth := p.header.depth
  let count := p.header.colouring.samples
  let values := (List.range count).map fun i => sample depth row (x * count + i)
  match p.header.colouring, values with
  | .grey, [v] => { Colour.shade (level depth v) with alpha := if p.isClear values then 0 else 255 }
  | .greyAlpha, [v, a] => { Colour.shade (level depth v) with alpha := level depth a }
  | .rgb, [r, g, b] =>
    ⟨level depth r, level depth g, level depth b, if p.isClear values then 0 else 255⟩
  | .rgbAlpha, [r, g, b, a] => ⟨level depth r, level depth g, level depth b, level depth a⟩
  | .palette, [i] =>
    let colours := p.palette.getD ByteArray.empty
    let alpha := match p.clear with
      | some strengths => if i < strengths.size then byteAt strengths i else 255
      | none => 255
    ⟨byteAt colours (3 * i), byteAt colours (3 * i + 1), byteAt colours (3 * i + 2), alpha⟩
  | _, _ => .clear

def Preface.colourAt (p : Preface) (found : List (Pass × Array ByteArray)) (x y : Nat) : Colour :=
  match found.find? fun (pass, _) => pass.brings x y with
  | some (pass, rows) =>
    p.colour (rows.getD ((y - pass.top) / pass.down) ByteArray.empty) ((x - pass.left) / pass.right)
  | none => .clear

/-! ## Pictures -/

def sides? (bytes : ByteArray) : Option Sides :=
  (preface.ofContent bytes).map fun (p, _) => p.header.sides

def picture : Scan Raster := do
  let (p, length) ← preface
  Scan.need (p.header.sides.haveRoom p.room)
  Scan.need (p.header.colouring ≠ .palette || p.palette.isSome)
  let packed ← packed length ByteArray.empty (← Scan.left)
  let data ← Scan.given (Codes.Inflate.unpackNamed? packed)
  let found ← Scan.given (allRows? p.header data p.header.passes 0)
  return .ofFn p.header.sides (p.colourAt found)

def read? (bytes : ByteArray) : Option Raster := picture.ofContent bytes

end Depot.Pictures.Png
