import Depot.Pictures.Anymap
import Depot.Pictures.Dds
import Depot.Pictures.Farbfeld
import Depot.Pictures.Gif
import Depot.Pictures.Icon
import Depot.Pictures.Jpeg
import Depot.Pictures.Kind
import Depot.Pictures.Qoi
import Depot.Pictures.Radiance
import Depot.Pictures.Tiff
import Depot.Pictures.Webp

/-!
Reading pictures of any kind. A picture can be measured as soon as everything before its points is
whole; to be read it has to be whole itself. Some kinds are recognised only.
-/

namespace Depot.Pictures

namespace Kind

def sides? (kind : Kind) (bytes : ByteArray) : Option Sides :=
  match kind with
  | png => Png.sides? bytes
  | jpeg => Jpeg.sides? bytes
  | gif => Gif.sides? bytes
  | webp => Webp.sides? bytes
  | tiff => Tiff.sides? bytes
  | bmp => Bmp.sides? bytes
  | icon => Icon.sides? bytes
  | radiance => Radiance.sides? bytes
  | qoi => Qoi.sides? bytes
  | anymap => Anymap.sides? bytes
  | farbfeld => Farbfeld.sides? bytes
  | dds => Dds.sides? bytes
  | avif | exr => none

def read? (kind : Kind) (bytes : ByteArray) : Option Raster :=
  match kind with
  | png => Png.read? bytes
  | jpeg => Jpeg.read? bytes
  | gif => Gif.read? bytes
  | webp => Webp.read? bytes
  | tiff => Tiff.read? bytes
  | bmp => Bmp.read? bytes
  | icon => Icon.read? bytes
  | radiance => Radiance.read? bytes
  | qoi => Qoi.read? bytes
  | anymap => Anymap.read? bytes
  | farbfeld => Farbfeld.read? bytes
  | dds => Dds.read? bytes
  | avif | exr => none

end Kind

def sides? (bytes : ByteArray) : Option Sides :=
  (Kind.ofBytes? bytes).bind fun kind => kind.sides? bytes

def read? (bytes : ByteArray) : Option Raster :=
  (Kind.ofBytes? bytes).bind fun kind => kind.read? bytes

structure Description where
  sides : Sides
  kind : Kind
  size : Nat

def describe? (bytes : ByteArray) : Option Description := do
  let kind ← Kind.ofBytes? bytes
  return ⟨← kind.sides? bytes, kind, bytes.size⟩

end Depot.Pictures
