import Depot.Pictures.Bmp
import Depot.Pictures.Png

/-!
Icons: a list of entries, each with a picture of its own. The entry with the most bits for a point
counts, and of those the one with the most points. Its picture is a whole PNG, or a BMP without the
header of the file and with a mask of one bit for every point behind it.
-/

namespace Depot.Pictures.Icon

open Bytes

structure Entry where
  /-- The sides, where the whole range of a byte is used: zero means 256. -/
  width : Nat
  height : Nat
  bits : Nat
  length : Nat
  place : Nat

namespace Entry

def meant (side : Nat) : Nat := if side = 0 then 256 else side

def area (e : Entry) : Nat := meant e.width * meant e.height

def isBetter (e other : Entry) : Bool :=
  other.bits < e.bits || (e.bits = other.bits && other.area < e.area)

def fits (e : Entry) (sides : Sides) : Bool :=
  meant e.width = min sides.width 256 && meant e.height = min sides.height 256

end Entry

def entry : Scan Entry := do
  let width ← Scan.byte
  let height ← Scan.byte
  let _ ← Scan.pass 4
  let bits ← Scan.low 2
  let length ← Scan.low 4
  return ⟨width, height, bits, length, ← Scan.low 4⟩

/-- The entry that counts. The last one of the list wins among equals. -/
def best? (entries : List Entry) : Option Entry :=
  let better (best e : Entry) : Entry := if e.isBetter best then e else best
  entries.getLast?.map fun last => entries.dropLast.foldl better last

def chosen : Scan Entry := do
  let _ ← Scan.pass 4
  let count ← Scan.low 2
  Scan.given (best? (← Scan.times entry count))

def isPng (bytes : ByteArray) (e : Entry) : Bool :=
  hasAt bytes e.place [0x89, 0x50, 0x4e, 0x47, 0x0d, 0x0a, 0x1a, 0x0a]

def layout (e : Entry) : Scan Bmp.Layout := do
  Scan.goTo e.place
  let layout ← Bmp.layout true
  return { layout with sides.height := layout.sides.height / 2 }

def measure : Scan Sides := do
  let e ← chosen
  Scan.need (e.place + 8 ≤ (← read).size)
  if isPng (← read) e then Scan.given (Png.sides? ((← read).extract e.place (← read).size))
  else return (← layout e).sides

def sides? (bytes : ByteArray) : Option Sides := measure.ofContent bytes

/-- Takes the strength from the points that a mask marks, if there is a mask before `ending`. -/
def masked (r : Raster) (ending : Nat) : Scan Raster := do
  let line := Bmp.lineOf r.width 1
  let here ← Scan.place
  if here + line * r.height ≤ ending then
    let start ← Scan.pass (line * r.height)
    let bytes ← read
    return .ofFn r.sides fun x y =>
      let b := (byteAt bytes (start + line * (r.height - 1 - y) + x / 8)).toNat
      let c := r.point x y
      if (b >>> (7 - x % 8)) % 2 = 1 then { c with alpha := 0 } else c
  else
    Scan.need (here = ending)
    return r

/-- Reads the picture of the entry that counts. A PNG has to have colours with their strengths. -/
def picture : Scan Raster := do
  let e ← chosen
  let bytes ← read
  Scan.need (e.place + 8 ≤ bytes.size)
  if isPng bytes e then
    let inner := bytes.extract e.place bytes.size
    let (preface, _) ← Scan.given (Png.preface.ofContent inner)
    Scan.need (e.fits preface.header.sides)
    Scan.need (preface.header.colouring = .rgbAlpha && preface.header.depth = 8)
    Scan.given (Png.read? inner)
  else
    let layout ← layout e
    Scan.need (e.fits layout.sides)
    masked (← Bmp.points layout) (e.place + e.length)

def read? (bytes : ByteArray) : Option Raster := picture.ofContent bytes

end Depot.Pictures.Icon
