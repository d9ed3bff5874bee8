import Depot.Bytes.Scan
import Depot.Pictures.Raster

/-!
Pictures in the format farbfeld: the two sides, then four numbers of 16 bits for every point.
-/

namespace Depot.Pictures.Farbfeld

open Bytes

def sides : Scan Sides := do
  let _ ← Scan.pass 8
  return ⟨← Scan.high 4, ← Scan.high 4⟩

def sides? (bytes : ByteArray) : Option Sides := sides.ofContent bytes

def level (value : Nat) : UInt8 := UInt8.ofNat ((value + 128) / 257)

def picture : Scan Raster := do
  let sides ← sides
  Scan.need (sides.haveRoom 8)
  let start ← Scan.pass (8 * sides.area)
  let bytes ← read
  return .ofFn sides fun x y =>
    let point := start + 8 * (y * sides.width + x)
    let part (i : Nat) : UInt8 := level (highFirst bytes (point + 2 * i) 2)
    ⟨part 0, part 1, part 2, part 3⟩

def read? (bytes : ByteArray) : Option Raster := picture.ofContent bytes

end Depot.Pictures.Farbfeld
