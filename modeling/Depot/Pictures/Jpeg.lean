import Depot.Pictures.Jpeg.Blocks
import Depot.Pictures.Raster

/-!
Pictures in the format JPEG. The waves of every block are summed up to the points of the planes; the
planes are brightness and two differences of colour, which together make the colours.
-/

namespace Depot.Pictures.Jpeg

open Bytes

/-- The height of a wave at a point of a side, from the middle of the first point on. -/
def cosine (wave point : Nat) : Float :=
  let scale : Float := if wave = 0 then (0.125 : Float).sqrt else 0.5
  scale * ((2 * point.toFloat + 1) * wave.toFloat * 3.14159265358979323846 / 16).cos

def cosines : Array Float := Array.ofFn (n := 64) fun i => cosine (i % 8) (i / 8)

def blockPoints (waves : Array Int) (start : Nat) (steps : Array Nat) : Array UInt8 :=
  let size (i : Nat) : Float := Float.ofInt (waves.getD (start + i) 0 * (steps.getD i 1 : Int))
  let sizes := Array.ofFn (n := 64) fun i => size i
  let sum (f : Nat → Float) : Float := (List.range 8).foldl (fun s i => s + f i) 0
  let across := Array.ofFn (n := 64) fun i =>
    sum fun wave => sizes.getD (i / 8 * 8 + wave) 0 * cosines.getD (i % 8 * 8 + wave) 0
  Array.ofFn (n := 64) fun i =>
    ((sum fun wave => across.getD (wave * 8 + i % 8) 0 * cosines.getD (i / 8 * 8 + wave) 0)
      + 128).round.toUInt8

structure Points where
  plane : Plane
  across : Nat
  blocks : Array (Array UInt8)

def pointsOf (t : Tables) (f : Frame) (waves : Array Int) : List Points :=
  (f.planes.zip (starts f)).map fun (plane, start) =>
    let sides := f.blocks plane
    let steps := t.steps.getD plane.steps #[]
    ⟨plane, sides.width, Array.ofFn (n := sides.area) fun i =>
      blockPoints waves (start + 64 * i) steps⟩

def Points.level (p : Points) (f : Frame) (x y : Nat) : UInt8 :=
  let column := x * p.plane.across / f.mostAcross
  let row := y * p.plane.down / f.mostDown
  (p.blocks.getD (row / 8 * p.across + column / 8) #[]).getD (row % 8 * 8 + column % 8) 0

def mixed (light blueness redness : UInt8) : Colour :=
  let y := light.toFloat
  let b := blueness.toFloat - 128
  let r := redness.toFloat - 128
  .solid (y + 1.402 * r).round.toUInt8 (y - 0.344136 * b - 0.714136 * r).round.toUInt8
    (y + 1.772 * b).round.toUInt8

def darkened (c : Colour) (light : UInt8) : Colour :=
  let part (b : UInt8) : UInt8 := UInt8.ofNat (b.toNat * light.toNat / 255)
  .solid (part c.red) (part c.green) (part c.blue)

def colour (mixing : Option Nat) : List UInt8 → Colour
  | [light] => .shade light
  | [a, b, c] => if mixing = some 0 then .solid a b c else mixed a b c
  | [a, b, c, light] => darkened (if mixing = some 2 then mixed a b c else .solid a b c) light
  | _ => .clear

def picture : Scan Raster := do
  let (tables, head) ← preface
  let frame ← Scan.given tables.frame
  Scan.need (frame.sides.haveRoom (if frame.planes.length = 1 then 1 else 3))
  let (tables, waves) ← readScans frame (← Scan.left) (tables, head)
    (Array.replicate (total frame) 0)
  let planes := pointsOf tables frame waves
  return .ofFn frame.sides fun x y =>
    colour tables.mixing (planes.map fun p => p.level frame x y)

def read? (bytes : ByteArray) : Option Raster := picture.ofContent bytes

end Depot.Pictures.Jpeg
