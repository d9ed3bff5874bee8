import Depot.Bytes.Scan
import Depot.Codes.Inflate
import Depot.Pictures.Raster

/-!
Pictures in the format TIFF: a directory of numbered entries says what the picture is and where its
strips of rows stand. Numbers have the lowest or the highest byte first, as the mark in front says.
Strips may be deflated or packed as runs of bytes.
-/

namespace Depot.Pictures.Tiff

open Bytes

inductive Order
  | lowFirst
  | highFirst
deriving DecidableEq, Repr

def Order.number (o : Order) (count : Nat) : Scan Nat :=
  match o with
  | lowFirst => Scan.low count
  | highFirst => Scan.high count

structure Entry where
  tag : Nat
  size : Nat
  count : Nat
  place : Nat

def sizeOfType : Nat → Nat
  | 1 | 2 | 6 | 7 => 1
  | 3 | 8 => 2
  | 4 | 9 | 11 | 13 => 4
  | 5 | 10 | 12 => 8
  | _ => 0

/-- An entry; values of four bytes at most stand in it, others somewhere else. -/
def entry (o : Order) : Scan Entry := do
  let tag ← o.number 2
  let size := sizeOfType (← o.number 2)
  let count ← o.number 4
  let here ← Scan.place
  let elsewhere ← o.number 4
  return ⟨tag, size, count, if size * count ≤ 4 then here else elsewhere⟩

structure Directory where
  order : Order
  entries : List Entry

def directory : Scan Directory := do
  let order ← match ← Scan.high 4 with
    | 0x49492a00 => pure Order.lowFirst
    | 0x4d4d002a => pure Order.highFirst
    | _ => failure
  Scan.goTo (← order.number 4)
  let count ← order.number 2
  let entries ← Scan.times (entry order) count
  let _ ← Scan.pass 4
  return ⟨order, entries⟩

namespace Directory

def values? (d : Directory) (tag : Nat) : Scan (Option (List Nat)) := do
  match d.entries.find? (·.tag = tag) with
  | none => return none
  | some e =>
    Scan.need (e.size = 1 || e.size = 2 || e.size = 4)
    Scan.goTo e.place
    Scan.need (e.size * e.count ≤ (← Scan.left))
    return some (← Scan.times (d.order.number e.size) e.count)

def values (d : Directory) (tag : Nat) : Scan (List Nat) := do
  let found ← d.values? tag
  Scan.given found

def valueOr (d : Directory) (tag usual : Nat) : Scan Nat := do
  match ← d.values? tag with
  | some (value :: _) => return value
  | some [] => failure
  | none => return usual

def value (d : Directory) (tag : Nat) : Scan Nat := do
  Scan.given (← d.values tag).head?

end Directory

structure Layout where
  order : Order
  sides : Sides
  /-- Whether the points are shades, where zero may be white, or colours. -/
  isGrey : Bool
  zeroIsWhite : Bool
  samples : Nat
  depth : Nat
  packing : Nat
  rowsPerStrip : Nat
  strips : List (Nat × Nat)

/-- Reads the layout. Shades and colours of one or two bytes are known, each with or without their
strength. -/
def layout : Scan Layout := do
  let d ← directory
  let sides : Sides := ⟨← d.value 256, ← d.value 257⟩
  Scan.need (!sides.isEmpty)
  let meaning ← d.value 262
  Scan.need (meaning ≤ 2)
  let samples ← d.valueOr 277 1
  let depths := (← d.values? 258).getD [1]
  let depth ← Scan.given depths.head?
  Scan.need ((depths.length = samples || depths.length = 1) && depths.all (· = depth))
  Scan.need (depth = 8 || depth = 16)
  Scan.need (if meaning = 2 then samples = 3 || samples = 4 else samples = 1 || samples = 2)
  Scan.need ((← d.valueOr 284 1) = 1 && (← d.valueOr 339 1) = 1)
  let places ← d.values 273
  let lengths ← d.values 279
  Scan.need (places.length = lengths.length)
  return {
    order := d.order, sides, isGrey := meaning ≤ 1, zeroIsWhite := meaning = 0, samples, depth
    packing := ← d.valueOr 259 1
    rowsPerStrip := ← d.valueOr 278 sides.height
    strips := places.zip lengths }

def sides? (bytes : ByteArray) : Option Sides := (layout.ofContent bytes).map (·.sides)

/-- Unpacks runs of bytes: a count up to 127 comes before one byte more that stand as they are, a
count from 129 on before a byte to repeat. -/
def unpackRuns (bytes : ByteArray) : (fuel place : Nat) → ByteArray → Option ByteArray
  | 0, _, out => some out
  | fuel + 1, place, out =>
    if bytes.size ≤ place then some out
    else
      let count := (byteAt bytes place).toNat
      if count = 128 then unpackRuns bytes fuel (place + 1) out
      else if count < 128 then
        if bytes.size < place + count + 2 then none
        else unpackRuns bytes fuel (place + count + 2)
          (out ++ bytes.extract (place + 1) (place + count + 2))
      else if bytes.size < place + 2 then none
      else unpackRuns bytes fuel (place + 2)
        ((List.replicate (257 - count) (byteAt bytes (place + 1))).foldl ByteArray.push out)

def strip (packing place length : Nat) : Scan ByteArray := do
  Scan.goTo place
  let bytes ← Scan.take length
  match packing with
  | 1 => return bytes
  | 8 | 32946 => Scan.given (Codes.Inflate.unpackNamed? bytes)
  | 32773 => Scan.given (unpackRuns bytes bytes.size 0 ByteArray.empty)
  | _ => failure

def rows (l : Layout) (line : Nat) : (top : Nat) → List (Nat × Nat) → ByteArray → Scan ByteArray
  | _, [], found => return found
  | top, (place, length) :: rest, found => do
    let count := min l.rowsPerStrip (l.sides.height - top)
    let bytes ← strip l.packing place length
    Scan.need (count * line ≤ bytes.size)
    rows l line (top + count) rest (found ++ bytes.extract 0 (count * line))

def picture : Scan Raster := do
  let l ← layout
  let size := l.depth / 8
  Scan.need (l.sides.haveRoom (l.samples * size))
  let line := l.sides.width * l.samples * size
  let bytes ← rows l line 0 l.strips ByteArray.empty
  Scan.need (line * l.sides.height ≤ bytes.size)
  let raw (place : Nat) : Nat := match l.order with
    | .lowFirst => lowFirst bytes place size
    | .highFirst => highFirst bytes place size
  let level (place : Nat) : UInt8 :=
    UInt8.ofNat (if size = 1 then raw place else (raw place + 128) / 257)
  return .ofFn l.sides fun x y =>
    let part (i : Nat) : UInt8 := level (y * line + (x * l.samples + i) * size)
    let shade (b : UInt8) : UInt8 := if l.zeroIsWhite then 255 - b else b
    match l.isGrey, l.samples with
    | true, 1 => .shade (shade (part 0))
    | true, _ => { Colour.shade (shade (part 0)) with alpha := part 1 }
    | false, 3 => .solid (part 0) (part 1) (part 2)
    | false, _ => ⟨part 0, part 1, part 2, part 3⟩

def read? (bytes : ByteArray) : Option Raster := picture.ofContent bytes

end Depot.Pictures.Tiff
