import Depot.Number.Double
import Depot.Pictures.Sides
import Depot.Pictures.Transform

/-!
How a picture is brought to the box that a request names. The plan depends on the two sides alone;
the points come later. A box that is larger than the picture is made as small as the picture first,
so nothing is ever enlarged.
-/

namespace Depot.Pictures

/-- A way to take lengths in a ratio of two lengths. -/
structure Scaling where
  Ratio : Type
  ratio : Nat → Nat → Ratio
  smaller : Ratio → Ratio → Ratio
  larger : Ratio → Ratio → Ratio
  scale : Ratio → Nat → Nat

namespace Scaling

/-- Ratios and products are kept to 53 bits. -/
def double : Scaling where
  Ratio := Number.Double
  ratio := Number.Double.quotient
  smaller := Number.Double.min
  larger := Number.Double.max
  scale := Number.Double.scale

/-- Ratios are pairs of a part and a whole, and nothing is lost before the last rounding. -/
def exact : Scaling where
  Ratio := Nat × Nat
  ratio part whole := (part, whole)
  smaller a b := if a.1 * b.2 ≤ b.1 * a.2 then a else b
  larger a b := if a.1 * b.2 ≤ b.1 * a.2 then b else a
  scale r length := Number.divUp (length * r.1) r.2

/-- A scaled length; there is always something left of it. -/
def scaled (s : Scaling) (r : s.Ratio) (length : Nat) : Nat := max (s.scale r length) 1

def both (s : Scaling) (r : s.Ratio) (sides : Sides) : Sides :=
  ⟨s.scaled r sides.width, s.scaled r sides.height⟩

def within (s : Scaling) (sides box : Sides) : Sides :=
  s.both (s.smaller (s.ratio box.width sides.width) (s.ratio box.height sides.height)) sides

def covering (s : Scaling) (sides box : Sides) : Sides :=
  s.both (s.larger (s.ratio box.width sides.width) (s.ratio box.height sides.height)) sides

/-- As `covering`, but never larger than the picture itself. -/
def coveringWithin (s : Scaling) (sides box : Sides) : Sides :=
  s.both (s.smaller
    (s.larger (s.ratio box.width sides.width) (s.ratio box.height sides.height))
    (s.ratio 1 1)) sides

end Scaling

inductive Plan
  | keep
  | resample (sides : Sides)
  | resampleAndCut (sides middle : Sides)
  | resampleAndFrame (sides canvas : Sides)
deriving DecidableEq, Repr

namespace Plan

def fitted (s : Scaling) (sides box : Sides) : Fit → Plan
  | .cover => .resampleAndCut (s.covering sides box) box
  | .fill => .resample box
  | .inside => .resample (s.within sides box)
  | .contain => .resampleAndFrame (s.within sides box) box
  | .outside => .resample (s.coveringWithin sides box)

/-- The plan for a request: with one side given, the other one follows from the shape. -/
def make (s : Scaling) (sides : Sides) (request : Transform) : Plan :=
  match request.width, request.height with
  | none, none => .keep
  | some width, none =>
    let width := min width.toNat sides.width
    .resample ⟨width, s.scaled (s.ratio width sides.width) sides.height⟩
  | none, some height =>
    let height := min height.toNat sides.height
    .resample ⟨s.scaled (s.ratio height sides.height) sides.width, height⟩
  | some width, some height =>
    fitted s sides ⟨min width.toNat sides.width, min height.toNat sides.height⟩ request.fit

def sides (source : Sides) : Plan → Sides
  | keep => source
  | resample sides => sides
  | resampleAndCut _ middle => middle
  | resampleAndFrame _ canvas => canvas

/-- The room between the sides of a canvas and the picture on it, taken in words of 32 bits: where the
picture is the longer one, it starts over from the top. -/
def room (picture canvas : Sides) : Sides where
  width := (canvas.width.toUInt32 - picture.width.toUInt32).toNat
  height := (canvas.height.toUInt32 - picture.height.toUInt32).toNat

end Plan

end Depot.Pictures
