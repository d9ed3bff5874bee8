import Depot.Bytes.Scan
import Depot.Number.Double
import Depot.Number.Power
import Depot.Pictures.Raster
import Depot.Text.Blank
import Depot.Text.Literal

/-!
Pictures in the format of Radiance: lines of text up to an empty one, a line with the sides, and
points of four bytes, three parts of a colour and one exponent for them all. Rows of a usual width
may be packed, each of the four bytes for itself; in other rows a mark may repeat the point before
it.
-/

namespace Depot.Pictures.Radiance

open Bytes

def line : Scan String := do
  let bytes ← read
  let here ← Scan.place
  let rest := (bytes.extract here bytes.size).toList
  Scan.need (!rest.isEmpty)
  let found := rest.takeWhile (· != 10)
  Scan.goTo (min (here + found.length + 1) bytes.size)
  return String.ofList (found.map fun b => Char.ofNat b.toNat)

/-- Whether a line of the header can be accepted: the way of writing points has to be the known
one. -/
def isAcceptable (text : String) : Bool :=
  match text.toList.span (· != '=') with
  | (name, '=' :: value) =>
    Text.trim (String.ofList name) != "FORMAT" ||
      Text.trim (String.ofList value) == "32-bit_rle_rgbe"
  | _ => true

def lines : (fuel : Nat) → Scan Unit
  | 0 => failure
  | fuel + 1 => do
    let text ← line
    if text.isEmpty then return ()
    Scan.need (text.startsWith "#" || isAcceptable text)
    lines fuel

def words (text : String) : List String :=
  let step (c : Char) (found : List Char × List String) : List Char × List String :=
    if Text.isBlank c then
      (if found.1.isEmpty then found else ([], String.ofList found.1 :: found.2))
    else (c :: found.1, found.2)
  match text.toList.foldr step ([], []) with
  | ([], found) => found
  | (first, found) => String.ofList first :: found

def header : Scan Sides := do
  let _ ← Scan.pass 10
  let _ ← line
  lines (← Scan.left)
  match words (← line) with
  | ["-Y", height, "+X", width] =>
    let side (text : String) : Option Nat := (Text.unsigned Text.maxWord32 text).toOption
    let height ← Scan.given (side height)
    return ⟨← Scan.given (side width), height⟩
  | _ => failure

def sides? (bytes : ByteArray) : Option Sides := header.ofContent bytes

/-! ## Points -/

structure Point where
  red : Nat
  green : Nat
  blue : Nat
  exponent : Nat
deriving Inhabited

/-- A part as a byte, where one is full; what is brighter is cut off. -/
def level (part exponent : Nat) : UInt8 :=
  if exponent = 0 then 0
  else UInt8.ofNat (min 255 (Number.divUp (part * 255 * twoTo exponent) (twoTo 136)))

def Point.colour (p : Point) : Colour :=
  .solid (level p.red p.exponent) (level p.green p.exponent) (level p.blue p.exponent)

def point : Scan Point := do return ⟨← Scan.byte, ← Scan.byte, ← Scan.byte, ← Scan.byte⟩

/-- Reads one of the four bytes of all points of a row: runs of one value, or values as they are. -/
def channel (width : Nat) : (fuel : Nat) → Array Nat → Scan (Array Nat)
  | 0, found => if found.size = width then pure found else failure
  | fuel + 1, found => do
    if width ≤ found.size then
      Scan.need (found.size = width)
      return found
    let count ← Scan.byte
    if 128 < count then
      let value ← Scan.byte
      channel width fuel (found ++ Array.replicate (count - 128) value)
    else
      let start ← Scan.pass count
      let bytes ← read
      let values := (Array.range count).map fun i => (byteAt bytes (start + i)).toNat
      channel width fuel (found ++ values)

/-- Reads the points behind a first one; three ones mark a repetition of the point before. Marks
that follow each other count in ever higher digits. -/
def plainRow (width : Nat) : (fuel digit : Nat) → Point → Array Point → Scan (Array Point)
  | 0, _, _, found => if found.size = width then pure found else failure
  | fuel + 1, digit, last, found => do
    if width ≤ found.size then
      Scan.need (found.size = width)
      return found
    let next ← point
    if next.red = 1 ∧ next.green = 1 ∧ next.blue = 1 then
      let count := next.exponent * twoTo (8 * digit)
      Scan.need (found.size + count ≤ width)
      plainRow width fuel (digit + 1) last (found ++ Array.replicate count last)
    else plainRow width fuel 0 next (found.push next)

def row (width : Nat) : Scan (Array Point) := do
  if width = 0 then return #[]
  let first ← point
  if first.red = 2 ∧ first.green = 2 ∧ first.blue < 128 ∧ 8 ≤ width ∧ width < 32768 then
    Scan.need (first.blue * 256 + first.exponent = width)
    let red ← channel width width #[]
    let green ← channel width width #[]
    let blue ← channel width width #[]
    let exponent ← channel width width #[]
    return Array.ofFn (n := width) fun i =>
      ⟨red.getD i 0, green.getD i 0, blue.getD i 0, exponent.getD i 0⟩
  else plainRow width width 0 first #[first]

def picture : Scan Raster := do
  let sides ← header
  Scan.need (sides.haveRoom 12)
  let rows := (← Scan.times (row sides.width) sides.height).toArray
  return .ofFn sides fun x y => ((rows.getD y #[]).getD x ⟨0, 0, 0, 0⟩).colour

def read? (bytes : ByteArray) : Option Raster := picture.ofContent bytes

end Depot.Pictures.Radiance
