import Depot.Bytes.Scan
import Depot.Pictures.Transform

/-!
The kinds of pictures, recognised by the bytes they begin with. A name or a declared type is never
asked.
-/

namespace Depot.Pictures

inductive Kind
  | png
  | jpeg
  | gif
  | webp
  | tiff
  | dds
  | bmp
  | icon
  | radiance
  | avif
  | exr
  | qoi
  | anymap
  | farbfeld
deriving DecidableEq, Repr

namespace Kind

/-- The bytes that a picture begins with, and from which place on. All parts have to be there. -/
abbrev Signature := List (Nat × List UInt8)

def matchesSignature (bytes : ByteArray) (signature : Signature) : Bool :=
  signature.all fun (place, part) => Bytes.hasAt bytes place part

def ascii (text : String) : List UInt8 := text.toUTF8.toList

def signatures : List (Signature × Kind) := [
  ([(0, [0x89, 0x50, 0x4e, 0x47, 0x0d, 0x0a, 0x1a, 0x0a])], png),
  ([(0, [0xff, 0xd8, 0xff])], jpeg),
  ([(0, ascii "GIF89a")], gif),
  ([(0, ascii "GIF87a")], gif),
  ([(0, ascii "RIFF"), (8, ascii "WEBP")], webp),
  ([(0, [0x4d, 0x4d, 0x00, 0x2a])], tiff),
  ([(0, [0x49, 0x49, 0x2a, 0x00])], tiff),
  ([(0, ascii "DDS ")], dds),
  ([(0, ascii "BM")], bmp),
  ([(0, [0x00, 0x00, 0x01, 0x00])], icon),
  ([(0, ascii "#?RADIANCE")], radiance),
  ([(0, [0x00, 0x00]), (4, ascii "ftypavif")], avif),
  ([(0, [0x76, 0x2f, 0x31, 0x01])], exr),
  ([(0, ascii "qoif")], qoi),
  ([(0, ascii "P1")], anymap),
  ([(0, ascii "P2")], anymap),
  ([(0, ascii "P3")], anymap),
  ([(0, ascii "P4")], anymap),
  ([(0, ascii "P5")], anymap),
  ([(0, ascii "P6")], anymap),
  ([(0, ascii "P7")], anymap),
  ([(0, ascii "farbfeld")], farbfeld)]

def ofBytes? (bytes : ByteArray) : Option Kind :=
  (signatures.find? fun (signature, _) => matchesSignature bytes signature).map (·.2)

def mimeType : Kind → String
  | png => "image/png"
  | jpeg => "image/jpeg"
  | gif => "image/gif"
  | webp => "image/webp"
  | tiff => "image/tiff"
  | dds => "image/vnd-ms.dds"
  | bmp => "image/bmp"
  | icon => "image/x-icon"
  | radiance => "image/vnd.radiance"
  | avif => "image/avif"
  | exr => "image/x-exr"
  | qoi => "image/x-qoi"
  | anymap => "image/x-portable-anymap"
  | farbfeld => "application/octet-stream"

def shortName (kind : Kind) : String :=
  let name := kind.mimeType
  if name.startsWith "image/" then String.ofList (name.toList.drop 6) else name

def ofFormat : Format → Kind
  | .jpeg => jpeg
  | .png => png
  | .webp => webp
  | .avif => avif

def format? (kind : Kind) : Option Format := Format.ofMimeType? kind.mimeType

end Kind

/-- The media type of a content: a document with the mark `%PDF-` in front, or a picture. -/
def mimeType? (bytes : ByteArray) : Option String :=
  if Bytes.hasAt bytes 0 (Kind.ascii "%PDF-") then some "application/pdf"
  else (Kind.ofBytes? bytes).map Kind.mimeType

end Depot.Pictures
