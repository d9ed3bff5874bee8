import Depot.Bytes.Scan
import Depot.Codes.Canonical
import Depot.Pictures.Sides

/-!
The parts of a JPEG: marked segments with tables, the frame that tells the sides and the planes of
the picture, and the scans that bring the planes' waves.
-/

namespace Depot.Pictures.Jpeg

open Bytes Codes

structure Plane where
  number : Nat
  across : Nat
  down : Nat
  steps : Nat
deriving Inhabited

structure Frame where
  sides : Sides
  planes : List Plane
  /-- Whether the waves come in several scans. -/
  progressive : Bool

namespace Frame

def mostAcross (f : Frame) : Nat := f.planes.foldl (fun m p => max m p.across) 1
def mostDown (f : Frame) : Nat := f.planes.foldl (fun m p => max m p.down) 1

def groups (f : Frame) : Sides :=
  ⟨(f.sides.width + 8 * f.mostAcross - 1) / (8 * f.mostAcross),
    (f.sides.height + 8 * f.mostDown - 1) / (8 * f.mostDown)⟩

/-- The blocks of a plane, with those that only fill up groups. -/
def blocks (f : Frame) (p : Plane) : Sides :=
  ⟨f.groups.width * p.across, f.groups.height * p.down⟩

/-- The blocks of a plane that have a point of the picture. -/
def ownBlocks (f : Frame) (p : Plane) : Sides :=
  let part (side most mine : Nat) : Nat := ((side * mine + most - 1) / most + 7) / 8
  ⟨part f.sides.width f.mostAcross p.across, part f.sides.height f.mostDown p.down⟩

end Frame

structure Tables where
  steps : Array (Array Nat) := Array.replicate 4 (Array.replicate 64 1)
  first : Array Canonical := Array.replicate 4 default
  later : Array Canonical := Array.replicate 4 default
  frame : Option Frame := none
  /-- The number of groups after which the waves start anew; zero for never. -/
  restart : Nat := 0
  mixing : Option Nat := none

structure Share where
  index : Nat
  first : Nat
  later : Nat

structure ScanHead where
  shares : List Share
  low : Nat
  high : Nat
  bitsBefore : Nat
  bitsNow : Nat

def waveOrder : Array Nat :=
  #[0, 1, 8, 16, 9, 2, 3, 10, 17, 24, 32, 25, 18, 11, 4, 5, 12, 19, 26, 33, 40, 48, 41, 34, 27,
    20, 13, 6, 7, 14, 21, 28, 35, 42, 49, 56, 57, 50, 43, 36, 29, 22, 15, 23, 30, 37, 44, 51, 58,
    59, 52, 45, 38, 31, 39, 46, 53, 60, 61, 54, 47, 55, 62, 63]

/-- The next mark: a byte with all bits set, perhaps repeated, and another one that is not zero. -/
def mark : (fuel : Nat) → Scan Nat
  | 0 => failure
  | fuel + 1 => do
    let b ← Scan.byte
    if b ≠ 0xff then mark fuel
    else
      let here ← Scan.place
      let next ← Scan.byte
      if next = 0xff then
        Scan.goTo here
        mark fuel
      else if next = 0 then mark fuel
      else return next

def steps (ending : Nat) : (fuel : Nat) → Tables → Scan Tables
  | 0, t => return t
  | fuel + 1, t => do
    if ending ≤ (← Scan.place) then return t
    let head ← Scan.byte
    Scan.need (head % 16 < 4 && head / 16 ≤ 1)
    let values := (← Scan.times (Scan.high (1 + head / 16)) 64).toArray
    let placed := (List.range 64).foldl (fun table i =>
      table.setIfInBounds (waveOrder.getD i 0) (values.getD i 1)) (Array.replicate 64 1)
    steps ending fuel { t with steps := t.steps.setIfInBounds (head % 16) placed }

def codes (ending : Nat) : (fuel : Nat) → Tables → Scan Tables
  | 0, t => return t
  | fuel + 1, t => do
    if ending ≤ (← Scan.place) then return t
    let head ← Scan.byte
    Scan.need (head % 16 < 4 && head / 16 ≤ 1)
    let counts ← Scan.times Scan.byte 16
    let symbols ← Scan.times Scan.byte (counts.foldl (· + ·) 0)
    let code : Canonical := ⟨counts, symbols.toArray⟩
    codes ending fuel (if head / 16 = 0
      then { t with first := t.first.setIfInBounds (head % 16) code }
      else { t with later := t.later.setIfInBounds (head % 16) code })

def plane : Scan Plane := do
  let number ← Scan.byte
  let sampling ← Scan.byte
  let steps ← Scan.byte
  let known (n : Nat) : Bool := n = 1 || n = 2 || n = 4
  Scan.need (known (sampling / 16) && known (sampling % 16) && steps < 4)
  return ⟨number, sampling / 16, sampling % 16, steps⟩

def frame (length : Nat) (progressive : Bool) : Scan Frame := do
  Scan.need ((← Scan.byte) = 8)
  let height ← Scan.high 2
  let width ← Scan.high 2
  let count ← Scan.byte
  Scan.need (0 < height && 0 < width && 1 ≤ count && count ≤ 4 && length = 8 + 3 * count)
  return ⟨⟨width, height⟩, ← Scan.times plane count, progressive⟩

def scanHead (f : Frame) (length : Nat) : Scan ScanHead := do
  let count ← Scan.byte
  Scan.need (1 ≤ count && count ≤ 4 && length = 6 + 2 * count)
  let share : Scan Share := do
    let number ← Scan.byte
    let index ← Scan.given (f.planes.findIdx? (·.number = number))
    let tables ← Scan.byte
    return ⟨index, tables / 16, tables % 16⟩
  let shares ← Scan.times share count
  let low ← Scan.byte
  let high ← Scan.byte
  let bits ← Scan.byte
  return if f.progressive then ⟨shares, low, min high 63, bits / 16, bits % 16⟩
    else ⟨shares, 0, 63, 0, 0⟩

/-- Reads segments up to the next scan; nothing if the picture ends first. -/
def toScan : (fuel : Nat) → Tables → Scan (Option (Tables × ScanHead))
  | 0, _ => return none
  | fuel + 1, t => do
    let mark ← mark (← Scan.left)
    if mark = 0xd9 then return none
    -- marks that stand alone
    if mark = 0x01 ∨ (0xd0 ≤ mark ∧ mark ≤ 0xd8) then toScan fuel t
    else
      let start ← Scan.place
      let length ← Scan.high 2
      Scan.need (2 ≤ length)
      let ending := start + length
      match mark with
      | 0xda =>
        let head ← scanHead (← Scan.given t.frame) length
        return some (t, head)
      | 0xdb =>
        let t ← steps ending length t
        toScan fuel t
      | 0xc4 =>
        let t ← codes ending length t
        toScan fuel t
      | 0xc0 | 0xc1 | 0xc2 =>
        Scan.need t.frame.isNone
        let frame ← frame length (mark = 0xc2)
        toScan fuel { t with frame := some frame }
      | 0xdd =>
        let restart ← Scan.high 2
        Scan.goTo ending
        toScan fuel { t with restart }
      | 0xee =>
        let bytes ← Scan.take (length - 2)
        let mixing := if 12 ≤ bytes.size ∧ hasAt bytes 0 [0x41, 0x64, 0x6f, 0x62, 0x65]
          then some (byteAt bytes 11).toNat else t.mixing
        toScan fuel { t with mixing }
      | 0xc3 | 0xc5 | 0xc6 | 0xc7 | 0xc9 | 0xca | 0xcb | 0xcd | 0xce | 0xcf | 0xcc | 0xdc => failure
      | _ =>
        let _ ← Scan.pass (length - 2)
        toScan fuel t

def preface : Scan (Tables × ScanHead) := do
  let _ ← Scan.pass 2
  Scan.given (← toScan (← Scan.left) {})

def sides? (bytes : ByteArray) : Option Sides :=
  ((preface.ofContent bytes).bind fun (t, _) => t.frame).map (·.sides)

end Depot.Pictures.Jpeg
