import Depot.Bytes.Scan
import Depot.Number.Power
import Depot.Pictures.Webp.Lossless

/-!
Pictures in the format WebP: a container of named chunks, each filled up to an even length. A chunk
holds the points in the lossless or in the lossy form; the extended form says the sides in a chunk
of its own. Lossy points are measured, but not read.
-/

namespace Depot.Pictures.Webp

open Bytes

def opening : Scan (String × Nat) := do
  let name := (← Scan.take 4).toList.map fun b => Char.ofNat b.toNat
  return (String.ofList name, ← Scan.low 4)

inductive Form
  | lossy
  | lossless
deriving DecidableEq, Repr

structure Content where
  sides : Sides
  form : Form
  place : Nat
  length : Nat

def lossySides : Scan Sides := do
  let mark ← Scan.low 3
  Scan.need (mark % 2 = 0 && mark / 2 % 8 ≤ 3)
  Scan.expect [0x9d, 0x01, 0x2a]
  let sides : Sides := ⟨(← Scan.low 2) % twoTo 14, (← Scan.low 2) % twoTo 14⟩
  Scan.need (!sides.isEmpty)
  return sides

def losslessSides : Scan Sides := do
  Scan.expect [0x2f]
  let word ← Scan.low 4
  Scan.need (word / twoTo 29 = 0)
  return ⟨word % twoTo 14 + 1, word / twoTo 14 % twoTo 14 + 1⟩

def even (n : Nat) : Nat := n + n % 2

def chunks (ending : Nat) : (fuel : Nat) → Scan (List (String × Nat × Nat))
  | 0 => return []
  | fuel + 1 => do
    let here ← Scan.place
    if ending ≤ here ∨ (← Scan.left) < 8 then return []
    let (name, length) ← opening
    let start ← Scan.place
    Scan.goTo (start + even length)
    return (name, start, length) :: (← chunks ending fuel)

def extended (start length size : Nat) : Scan Content := do
  let flags ← Scan.byte
  let _ ← Scan.pass 3
  let sides : Sides := ⟨1 + (← Scan.low 3), 1 + (← Scan.low 3)⟩
  Scan.need (sides.area < twoTo 32)
  Scan.goTo (start + even length)
  let found ← chunks (start + even length + (size - 12)) (← Scan.left)
  let chunk (name : String) : Option (Nat × Nat) := found.lookup name
  match chunk "VP8 ", chunk "VP8L" with
  | some (place, length), none => return ⟨sides, .lossy, place, length⟩
  | none, some (place, length) => return ⟨sides, .lossless, place, length⟩
  | _, _ =>
    Scan.need (flags / 2 % 2 = 1)
    let (place, length) ← Scan.given (chunk "ANMF")
    Scan.need (chunk "ANIM").isSome
    return ⟨sides, .lossy, place, length⟩

def content : Scan Content := do
  Scan.expect [0x52, 0x49, 0x46, 0x46]
  let size ← Scan.low 4
  Scan.expect [0x57, 0x45, 0x42, 0x50]
  let (name, length) ← opening
  let place ← Scan.place
  match name with
  | "VP8 " => return ⟨← lossySides, .lossy, place, length⟩
  | "VP8L" => return ⟨← losslessSides, .lossless, place, length⟩
  | "VP8X" => extended place length size
  | _ => failure

def sides? (bytes : ByteArray) : Option Sides := (content.ofContent bytes).map (·.sides)

/-- Reads a picture; the sides of the points have to be the ones promised. -/
def picture : Scan Raster := do
  let found ← content
  Scan.need (found.form = .lossless)
  let bytes := (← read).extract found.place (found.place + found.length)
  let raster ← Scan.given (Lossless.picture.ofContent bytes)
  Scan.need (raster.sides = found.sides)
  return raster

def read? (bytes : ByteArray) : Option Raster := picture.ofContent bytes

end Depot.Pictures.Webp
