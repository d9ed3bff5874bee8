import Depot.Pictures.Raster

/-!
Pictures at other sides. Every new point is a mean of old points around its place, weighted by a
windowed wave that is three points wide to either side, first down the columns and then along the
rows. Sides that stay the same leave the picture as it is.
-/

namespace Depot.Pictures

namespace Resample

def pi : Float := 3.14159265358979323846

def wave (x : Float) : Float :=
  let angle := pi * x
  if x == 0 then 1 else angle.sin / angle

def weight (distance : Float) : Float :=
  if distance.abs < 3 then wave distance * wave (distance / 3) else 0

/-- For a new place on a side, the first old place that counts and the weights from there on. -/
structure Window where
  first : Nat := 0
  weights : List Float := []

def window (old new place : Nat) : Window :=
  let ratio := old.toFloat / new.toFloat
  let stretch := if ratio < 1 then 1 else ratio
  let centre := (place.toFloat + 0.5) * ratio
  let first := min (centre - 3 * stretch).floor.toUInt64.toNat (old - 1)
  let behind := max (first + 1) (min (centre + 3 * stretch).ceil.toUInt64.toNat old)
  let raw := (List.range (behind - first)).map fun i =>
    weight (((first + i).toFloat - (centre - 0.5)) / stretch)
  let sum := raw.foldl (· + ·) 0
  ⟨first, raw.map (· / sum)⟩

structure Blend where
  red : Float := 0
  green : Float := 0
  blue : Float := 0
  alpha : Float := 0
deriving Inhabited

def Blend.add (b : Blend) (factor : Float) (other : Blend) : Blend :=
  ⟨b.red + factor * other.red, b.green + factor * other.green, b.blue + factor * other.blue,
    b.alpha + factor * other.alpha⟩

def Blend.ofColour (c : Colour) : Blend :=
  ⟨c.red.toFloat, c.green.toFloat, c.blue.toFloat, c.alpha.toFloat⟩

def byte (x : Float) : UInt8 := x.round.toUInt8

def Blend.colour (b : Blend) : Colour := ⟨byte b.red, byte b.green, byte b.blue, byte b.alpha⟩

def Window.mean (w : Window) (point : Nat → Blend) : Blend :=
  (w.weights.foldl (fun (sum, i) factor => (sum.add factor (point i), i + 1))
    (({} : Blend), w.first)).1

def points (r : Raster) (sides : Sides) : Raster :=
  let columns := Array.ofFn (n := sides.width) fun x => window r.width sides.width x
  let rows := Array.ofFn (n := sides.height) fun y => window r.height sides.height y
  let between := Array.ofFn (n := r.width * sides.height) fun i =>
    (rows.getD (i / r.width) {}).mean fun y => .ofColour (r.point (i % r.width) y)
  .ofFn sides fun x y =>
    ((columns.getD x {}).mean fun column => between.getD (y * r.width + column) {}).colour

end Resample

def Raster.resampled (r : Raster) (sides : Sides) : Raster :=
  if r.sides = sides then r
  else if r.sides.isEmpty then .ofFn sides fun _ _ => .clear
  else Resample.points r sides

end Depot.Pictures
