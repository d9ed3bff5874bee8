/-!
The lengths of the two sides of a picture.
-/

namespace Depot.Pictures

structure Sides where
  width : Nat
  height : Nat
deriving DecidableEq, Repr

namespace Sides

def area (s : Sides) : Nat := s.width * s.height

def isEmpty (s : Sides) : Bool := s.width = 0 || s.height = 0

/-- The points of a picture fill no more memory than this. -/
def largestRoom : Nat := 512 * 1024 * 1024

def haveRoom (s : Sides) (bytes : Nat) : Bool := s.area * bytes ≤ largestRoom

end Sides

end Depot.Pictures
