import Depot.BackendFailure
import Depot.Pictures.Plan
import Depot.Pictures.Reading
import Depot.Pictures.Resample

/-!
Changing pictures: a content is read, fitted into a box, and made ready to be written in a format.
The bytes of the new content are the business of whoever writes it, and so are the words for what
cannot be read or written; everything else about it is known here.
-/

namespace Depot.Pictures

/-! ## Fitting -/

def unit (b : UInt8) : Float32 := Float32.ofNat b.toNat / 255

def unitByte (x : Float32) : UInt8 := (255 * x).toUInt8

/-- A colour laid over a clear ground, in single precision: parts are weighted by the strength and
the weight is taken off again, so that bits at the end may get lost. -/
def Colour.overClear (c : Colour) : Colour :=
  if c.alpha = 0 then .clear
  else if c.alpha = 255 then c
  else
    let weight := unit c.alpha
    let part (b : UInt8) : UInt8 := unitByte (unit b * weight / weight)
    ⟨part c.red, part c.green, part c.blue, unitByte weight⟩

namespace Raster

def middle (r : Raster) (sides : Sides) : Raster :=
  r.cut ((r.width - sides.width) / 2) ((r.height - sides.height) / 2) sides

def framed (r : Raster) (canvas room : Sides) : Raster :=
  let left := room.width / 2
  let top := room.height / 2
  .ofFn canvas fun x y =>
    if left ≤ x ∧ top ≤ y then (r.point (x - left) (y - top)).overClear else .clear

def follow (r : Raster) : Plan → Raster
  | .keep => r
  | .resample sides => r.resampled sides
  | .resampleAndCut sides middle => (r.resampled sides).middle middle
  | .resampleAndFrame sides canvas => (r.resampled sides).framed canvas (Plan.room sides canvas)

end Raster

/-! ## Drawings -/

/-- A content that cannot be read as a picture, or sides that a format cannot have. -/
inductive Unworkable
  | content (bytes : ByteArray)
  | sides (format : Format) (sides : Sides)

variable (words : Unworkable → String)

structure Drawing where
  raster : Raster
  format : Format
  /-- From 1 to 100; formats that lose nothing do not look at it. -/
  quality : Nat

namespace Drawing

def longestSide? : Format → Option Nat
  | .jpeg => some 65535
  | .webp => some 16384
  | .png | .avif => none

def canWrite (format : Format) (sides : Sides) : Bool :=
  !sides.isEmpty && match longestSide? format with
    | some limit => sides.width ≤ limit && sides.height ≤ limit
    | none => true

def make (raster : Raster) (format : Format) (quality : UInt8) : Except BackendFailure Drawing :=
  if canWrite format raster.sides then .ok ⟨raster, format, max 1 (min 100 quality.toNat)⟩
  else .error (.picture (words (.sides format raster.sides)))

def sides (d : Drawing) : Sides := d.raster.sides

def mimeType (d : Drawing) : String := d.format.mimeType

end Drawing

def load (bytes : ByteArray) : Except BackendFailure Raster :=
  match read? bytes with
  | some raster => .ok raster
  | none => .error (.picture (words (.content bytes)))

def transform (scaling : Scaling) (bytes : ByteArray) (request : Transform) :
    Except BackendFailure Drawing := do
  let raster ← load words bytes
  Drawing.make words (raster.follow (.make scaling raster.sides request)) request.format
    request.quality

def convert (bytes : ByteArray) (format : Format) (quality : Option UInt8) :
    Except BackendFailure Drawing := do
  Drawing.make words (← load words bytes) format (quality.getD usualQuality)

/-- Makes a picture ready in the format it came in, if it can be written, else as JPEG. -/
def optimize (bytes : ByteArray) (quality : Option UInt8) : Except BackendFailure Drawing :=
  convert words bytes (((Kind.ofBytes? bytes).bind Kind.format?).getD .jpeg) quality

end Depot.Pictures
