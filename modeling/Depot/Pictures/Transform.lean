import Depot.Json.Value

/-!
Requests to change pictures: a box that the picture is fitted into, the way of fitting, and the
format and quality of the result.
-/

namespace Depot.Pictures

inductive Fit
  /-- Fill the box and cut off what is over. -/
  | cover
  /-- Stay within the box and fill it up with transparency. -/
  | contain
  /-- Stretch to the box. -/
  | fill
  /-- Stay within the box. -/
  | inside
  /-- Cover the box and cut nothing off. -/
  | outside
deriving DecidableEq, Repr, Inhabited

namespace Fit

def name : Fit → String
  | cover => "cover"
  | contain => "contain"
  | fill => "fill"
  | inside => "inside"
  | outside => "outside"

def ofName? : String → Option Fit
  | "cover" => some cover
  | "contain" => some contain
  | "fill" => some fill
  | "inside" => some inside
  | "outside" => some outside
  | _ => none

end Fit

inductive Format
  | jpeg
  | png
  | webp
  | avif
deriving DecidableEq, Repr, Inhabited

namespace Format

def name : Format → String
  | jpeg => "jpeg"
  | png => "png"
  | webp => "webp"
  | avif => "avif"

def ofName? : String → Option Format
  | "jpeg" => some jpeg
  | "png" => some png
  | "webp" => some webp
  | "avif" => some avif
  | _ => none

def mimeType (format : Format) : String := "image/" ++ format.name

def ofMimeType? : String → Option Format
  | "image/jpeg" => some jpeg
  | "image/png" => some png
  | "image/webp" => some webp
  | "image/avif" => some avif
  | _ => none

end Format

def usualQuality : UInt8 := 80

/-- A request to fit a picture into a box and to write it anew. Pictures are never enlarged. -/
structure Transform where
  width : Option UInt32 := none
  height : Option UInt32 := none
  fit : Fit := .cover
  quality : UInt8 := usualQuality
  format : Format := .jpeg
deriving DecidableEq, Repr

namespace Transform

def json (request : Transform) : Json :=
  .obj [("width", .ofOption (fun n => .nat n.toNat) request.width),
    ("height", .ofOption (fun n => .nat n.toNat) request.height),
    ("fit", .str request.fit.name), ("quality", .nat request.quality.toNat),
    ("format", .str request.format.name)]

def side? : Option Json → Option (Option UInt32)
  | none => some none
  | some value => value.nullable? fun n => (n.natUpTo? Text.maxWord32).map UInt32.ofNat

def given? (usual : α) (read : Json → Option α) : Option Json → Option α
  | none => some usual
  | some value => read value

def fit? (json : Json) : Option Fit := json.tag?.bind Fit.ofName?
def format? (json : Json) : Option Format := json.tag?.bind Format.ofName?

def quality? (json : Json) : Option UInt8 := (json.natUpTo? Text.maxWord8).map UInt8.ofNat

def ofJson? (json : Json) : Option Transform :=
  match json.record? ["width", "height", "fit", "quality", "format"] with
  | some [width, height, fit, quality, format] => do
    return {
      width := ← side? width
      height := ← side? height
      fit := ← given? .cover fit? fit
      quality := ← given? usualQuality quality? quality
      format := ← given? .jpeg format? format }
  | _ => none

end Transform

structure Rendition where
  bytes : ByteArray
  width : Nat
  height : Nat
  mimeType : String

end Depot.Pictures
