import Mathlib.Data.Nat.Notation

/-!
# Sniffing the image type of an upload

`sniffImageType` looks at the first bytes of a file and names the image format
they announce, if any.
-/

namespace FifiAlert

inductive SniffedImageType where
  | jpeg
  | png
  | webp
  | heic
  | heif
  deriving DecidableEq, Inhabited

def SniffedImageType.mime : SniffedImageType → String
  | jpeg => "image/jpeg"
  | png => "image/png"
  | webp => "image/webp"
  | heic => "image/heic"
  | heif => "image/heif"

namespace ImageType

def HEIC_BRANDS : List String := ["heic", "heix", "hevc", "hevx"]
def HEIF_BRANDS : List String := ["mif1", "msf1", "heif", "heim", "heis", "avif"]

/-- `buffer.toString('ascii', start, stop)`: seven bits of each byte. -/
def ascii (buffer : List UInt8) (start stop : ℕ) : String :=
  String.ofList (((buffer.take stop).drop start).map fun b => Char.ofNat (b.toNat % 128))

/-- `toLowerCase` on an ASCII string. -/
def lower (s : String) : String :=
  String.ofList (s.toList.map Char.toLower)

def readUInt32BE (buffer : List UInt8) : ℕ :=
  (buffer.take 4).foldl (fun acc b => acc * 256 + b.toNat) 0

def brandType (brand : String) : Option SniffedImageType :=
  if HEIC_BRANDS.contains brand then some .heic
  else if HEIF_BRANDS.contains brand then some .heif
  else none

/-- The compatible brands of an `ftyp` box, at offsets 16, 20, … below its
size. -/
def compatibleBrands (buffer : List UInt8) : List String :=
  let boxSize := min (min (readUInt32BE buffer) buffer.length) 64
  (List.range ((boxSize - 16) / 4)).map fun n =>
    lower (ascii buffer (16 + 4 * n) (16 + 4 * n + 4))

def sniffImageType (buffer : List UInt8) : Option SniffedImageType :=
  if buffer.length < 12 then none
  else if buffer.take 3 = [0xff, 0xd8, 0xff] then some .jpeg
  else if buffer.take 8 = [0x89, 0x50, 0x4e, 0x47, 0x0d, 0x0a, 0x1a, 0x0a] then some .png
  else if ascii buffer 0 4 = "RIFF" ∧ ascii buffer 8 12 = "WEBP" then some .webp
  else if ascii buffer 4 8 = "ftyp" then
    (lower (ascii buffer 8 12) :: compatibleBrands buffer).findSome? brandType
  else none

end ImageType

end FifiAlert
