import Depot.Bytes.Scan
import Depot.Pictures.Raster
import Depot.Text.Blank
import Depot.Text.Literal

/-!
Portable anymaps: pictures with a header in plain text. Six kinds have the sides and the largest
number in words after the mark; the seventh has them in named lines. Numbers follow in plain text or
in bytes.
-/

namespace Depot.Pictures.Anymap

open Bytes

inductive Tuple
  /-- One bit, where one is black. -/
  | ink
  /-- One bit, where one is white. -/
  | light
  | grey
  | greyAlpha
  | rgb
  | rgbAlpha
deriving DecidableEq, Repr

def Tuple.samples : Tuple → Nat
  | ink | light | grey => 1
  | greyAlpha => 2
  | rgb => 3
  | rgbAlpha => 4

structure Header where
  sides : Sides
  tuple : Tuple
  largest : Nat
  inText : Bool

/-! ## Words -/

def isBlank (b : UInt8) : Bool := b == 32 || (9 ≤ b && b ≤ 13)

/-- Reads a word: blanks before it and one blank behind it belong to it, and so do comments from `#`
to the end of the line, which may stand in its middle. `counts` is false within a comment. -/
def wordFrom (bytes : ByteArray) : (fuel place : Nat) → (counts : Bool) → List UInt8 →
    List UInt8 × Nat
  | 0, place, _, found => (found.reverse, place)
  | fuel + 1, place, counts, found =>
    let b := byteAt bytes place
    if counts && b != 35 then
      if isBlank b then
        if found.isEmpty then wordFrom bytes fuel (place + 1) true found
        else (found.reverse, place + 1)
      else wordFrom bytes fuel (place + 1) true (b :: found)
    else wordFrom bytes fuel (place + 1) (b == 10 || b == 13) found

def number? (limit : Nat) (word : List UInt8) : Option Nat := do
  guard (word.all (· < 128))
  (Text.unsigned limit (String.ofList (word.map fun b => Char.ofNat b.toNat))).toOption

def number : Scan Nat := do
  let bytes ← read
  let (word, next) := wordFrom bytes (← Scan.left) (← Scan.place) true []
  Scan.goTo next
  Scan.given (number? Text.maxWord32 word)

/-! ## Lines -/

def line : Scan String := do
  let bytes ← read
  let here ← Scan.place
  let rest := (bytes.extract here bytes.size).toList
  Scan.need (!rest.isEmpty)
  let found := rest.takeWhile (· != 10)
  Scan.goTo (min (here + found.length + 1) bytes.size)
  Scan.need (found.all (· < 128))
  return String.ofList (found.map fun b => Char.ofNat b.toNat)

structure Lines where
  height : Option Nat := none
  width : Option Nat := none
  depth : Option Nat := none
  largest : Option Nat := none
  kind : Option String := none

def once (known : Option Nat) (text : String) : Option (Option Nat) :=
  match known with
  | some _ => none
  | none => (Text.unsigned Text.maxWord32 text).toOption.map some

def Lines.take (l : Lines) (name value : String) : Option Lines :=
  match name with
  | "HEIGHT" => (once l.height value).map ({ l with height := · })
  | "WIDTH" => (once l.width value).map ({ l with width := · })
  | "DEPTH" => (once l.depth value).map ({ l with depth := · })
  | "MAXVAL" => (once l.largest value).map ({ l with largest := · })
  | "TUPLTYPE" => some { l with kind := some (match l.kind with
    | some kind => kind ++ " " ++ value
    | none => value) }
  | _ => none

def lines (found : Lines) : (fuel : Nat) → Scan Lines
  | 0 => failure
  | fuel + 1 => do
    let text := (← line).toList
    if text.head? = some '#' then lines found fuel
    else
      let trimmed := text.dropWhile Text.isBlank
      let name := String.ofList (trimmed.takeWhile (!Text.isBlank ·))
      let value := Text.trim (String.ofList (trimmed.dropWhile (!Text.isBlank ·)))
      if name = "ENDHDR" then return found
      lines (← Scan.given (found.take name value)) fuel

def tuple? (kind : Option String) (depth largest : Nat) : Option Tuple :=
  match kind, depth with
  | none, 1 => some .grey
  | none, 3 => some .rgb
  | some "BLACKANDWHITE", 1 => if largest = 1 then some .light else none
  | some "GRAYSCALE", 1 => some .grey
  | some "GRAYSCALE_ALPHA", 2 => some .greyAlpha
  | some "RGB", 3 => some .rgb
  | some "RGB_ALPHA", 4 => some .rgbAlpha
  | _, _ => none

/-! ## Headers -/

def wordHeader (tuple : Tuple) (inText : Bool) : Scan Header := do
  let sides : Sides := ⟨← number, ← number⟩
  let largest ← if tuple = .ink then pure 1 else number
  Scan.need (0 < largest && largest ≤ 0xffff)
  return ⟨sides, tuple, largest, inText⟩

def lineHeader : Scan Header := do
  Scan.expect [10]
  let found ← lines {} (← Scan.left)
  let sides : Sides := ⟨← Scan.given found.width, ← Scan.given found.height⟩
  let largest ← Scan.given found.largest
  Scan.need (0 < largest && largest ≤ 0xffff)
  let tuple ← Scan.given (tuple? found.kind (← Scan.given found.depth) largest)
  return ⟨sides, tuple, largest, false⟩

def header : Scan Header := do
  Scan.expect [80]
  match (← Scan.byte) - 48 with
  | 1 => wordHeader .ink true
  | 2 => wordHeader .grey true
  | 3 => wordHeader .rgb true
  | 4 => wordHeader .ink false
  | 5 => wordHeader .grey false
  | 6 => wordHeader .rgb false
  | 7 => lineHeader
  | _ => failure

def sides? (bytes : ByteArray) : Option Sides := (header.ofContent bytes).map (·.sides)

/-! ## Numbers -/

def textNumbers (limit : Nat) : (count : Nat) → List UInt8 → Option (List Nat)
  | 0, _ => some []
  | count + 1, text => do
    let text := text.dropWhile isBlank
    let n ← number? limit (text.takeWhile (!isBlank ·))
    return n :: (← textNumbers limit count (text.dropWhile (!isBlank ·)))

/-- Reads bits in plain text, with or without blanks between them. -/
def textBits : (count : Nat) → List UInt8 → Option (List Nat)
  | 0, _ => some []
  | count + 1, text =>
    match text.dropWhile isBlank with
    | 48 :: rest => (textBits count rest).map (0 :: ·)
    | 49 :: rest => (textBits count rest).map (1 :: ·)
    | _ => none

def numbers (h : Header) : Scan (Array Nat) := do
  let total := h.sides.area * h.tuple.samples
  let bytes ← read
  if h.inText then
    let rest := (bytes.extract (← Scan.place) bytes.size).toList
    Scan.need (total ≤ rest.length)
    let found := if h.tuple = .ink then textBits total rest
      else textNumbers (if h.largest < 256 then 255 else 0xffff) total rest
    return (← Scan.given found).toArray
  else if h.tuple = .ink then
    let line := (h.sides.width + 7) / 8
    let start ← Scan.pass (line * h.sides.height)
    return Array.ofFn (n := total) fun i =>
      let x := i % h.sides.width
      ((byteAt bytes (start + line * (i / h.sides.width) + x / 8)).toNat >>> (7 - x % 8)) % 2
  else
    let size := if h.largest < 256 then 1 else 2
    let start ← Scan.pass (size * total)
    return Array.ofFn (n := total) fun i => highFirst bytes (start + size * i) size

/-- A number brought to the range of a byte, in single precision: first to a whole range of one or
two bytes, then to one byte. -/
def level (largest value : Nat) : UInt8 :=
  let range := if largest < 256 then 255 else 0xffff
  let scaled := if largest = range then value
    else
      let factor := Float32.ofNat range / Float32.ofNat largest
      min range (Float32.ofNat value * factor).round.toUInt32.toNat
  UInt8.ofNat (if range = 255 then scaled else (scaled + 128) / 257)

def picture : Scan Raster := do
  let h ← header
  Scan.need (h.sides.haveRoom (h.tuple.samples * if h.largest < 256 then 1 else 2))
  let numbers ← numbers h
  Scan.need (h.tuple ≠ .light || numbers.all (· ≤ 1))
  return .ofFn h.sides fun x y =>
    let start := (y * h.sides.width + x) * h.tuple.samples
    let raw (i : Nat) : Nat := numbers.getD (start + i) 0
    let part (i : Nat) : UInt8 := level h.largest (raw i)
    match h.tuple with
    | .ink => .shade (if raw 0 = 1 then 0 else 255)
    | .light | .grey => .shade (part 0)
    | .greyAlpha => { Colour.shade (part 0) with alpha := part 1 }
    | .rgb => .solid (part 0) (part 1) (part 2)
    | .rgbAlpha => ⟨part 0, part 1, part 2, part 3⟩

def read? (bytes : ByteArray) : Option Raster := picture.ofContent bytes

end Depot.Pictures.Anymap
