import Depot.Number.Double

/-!
What is known of the content of a file: its media type, its size, and for a picture its two sides.
-/

namespace Depot.Files

def isImageType (mimeType : String) : Bool := mimeType.startsWith "image/"

structure Metadata where
  mimeType : String
  size : Nat
  width : Option Nat := none
  height : Option Nat := none
deriving DecidableEq, Repr

namespace Metadata

def isImage (data : Metadata) : Bool := isImageType data.mimeType

def hasDimensions (data : Metadata) : Bool := data.width.isSome && data.height.isSome

def sizeInKb (data : Metadata) : Nat := (data.size + 512) / 1024

def sizeInMb (data : Metadata) : String := Number.megabytesUp data.size

end Metadata

end Depot.Files
