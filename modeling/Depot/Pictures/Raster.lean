import Depot.Pictures.Sides

/-!
Pictures as points of colour, row by row from the top, each row from the left.
-/

namespace Depot.Pictures

structure Colour where
  red : UInt8
  green : UInt8
  blue : UInt8
  alpha : UInt8
deriving DecidableEq, Repr, Inhabited

namespace Colour

def clear : Colour := ⟨0, 0, 0, 0⟩

def solid (red green blue : UInt8) : Colour := ⟨red, green, blue, 255⟩

def shade (level : UInt8) : Colour := ⟨level, level, level, 255⟩

def bytes (c : Colour) : List UInt8 := [c.red, c.green, c.blue, c.alpha]

end Colour

structure Raster where
  width : Nat
  height : Nat
  colours : Array Colour
  size_colours : colours.size = width * height

namespace Raster

def sides (r : Raster) : Sides := ⟨r.width, r.height⟩

def ofFn (sides : Sides) (colour : Nat → Nat → Colour) : Raster where
  width := sides.width
  height := sides.height
  colours := Array.ofFn (n := sides.area) fun i => colour (i % sides.width) (i / sides.width)
  size_colours := Array.size_ofFn

def ofColours? (sides : Sides) (colours : Array Colour) : Option Raster :=
  if enough : colours.size = sides.width * sides.height
  then some ⟨sides.width, sides.height, colours, enough⟩ else none

/-- The colour in a column and a row; outside of the picture everything is clear. -/
def point (r : Raster) (x y : Nat) : Colour :=
  if x < r.width then r.colours.getD (y * r.width + x) .clear else .clear

def cut (r : Raster) (x y : Nat) (sides : Sides) : Raster :=
  ofFn sides fun column row => r.point (x + column) (y + row)

def rows (r : Raster) : List (List Colour) :=
  (List.range r.height).map fun y => (List.range r.width).map fun x => r.point x y

end Raster

end Depot.Pictures
