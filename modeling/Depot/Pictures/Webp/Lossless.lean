import Depot.Codes.Bits
import Depot.Number.Power
import Depot.Pictures.Raster

/-!
Points of a picture in the lossless form of WebP. Bits spell colours in canonical codes, one for
each part of a colour; a word may also repeat points from before or name one of the latest colours.
The points that come out may have been changed on purpose, by guesses from their neighbours, by
taking one part of the colour from the others, or by counting colours; that is undone at the end.
-/

namespace Depot.Pictures.Webp.Lossless

open Codes Codes.BitScan

/-! ## Codes -/

def lengthOrder : List Nat := [17, 18, 0, 1, 2, 3, 4, 5, 16, 6, 7, 8, 9, 10, 11, 12, 13, 14, 15]

/-- The next symbol; a code with one symbol takes no bits. -/
def next (code : Canonical) : BitScan Nat :=
  if code.isSingle then pure (code.symbols.getD 0 0) else symbol code

/-- The code of lengths that leave no word over, or of a single symbol. -/
def codeOf (longest : Nat) (lengths : Array Nat) : BitScan Canonical := do
  let code := Canonical.ofLengths longest lengths
  need (code.isSingle || code.isComplete)
  return code

/-- Reads lengths of words for `total` symbols from `steps` steps at most. `last` is the last length
that was not zero. -/
def wordLengths (code : Canonical) (total : Nat) :
    (steps last : Nat) → Array Nat → BitScan (Array Nat)
  | 0, _, found => return found
  | steps + 1, last, found => do
    if total ≤ found.size then return found
    let grow (count value : Nat) : BitScan (Array Nat) := do
      need (found.size + count ≤ total)
      return found ++ Array.replicate count value
    match ← next code with
    | 16 => wordLengths code total steps last (← grow (3 + (← bits 2)) last)
    | 17 => wordLengths code total steps last (← grow (3 + (← bits 3)) 0)
    | 18 => wordLengths code total steps last (← grow (11 + (← bits 7)) 0)
    | length =>
      wordLengths code total steps (if length = 0 then last else length) (found.push length)

def code (total : Nat) : BitScan Canonical := do
  if ← flag then
    let count := 1 + (← bits 1)
    let first ← bits (if ← flag then 8 else 1)
    need (first < total)
    if count = 1 then return ⟨[1], #[first]⟩
    let second ← bits 8
    need (second < total)
    return if first = second then ⟨[1], #[first]⟩
      else ⟨[2], #[min first second, max first second]⟩
  else
    let given := 4 + (← bits 4)
    let mut table := Array.replicate 19 0
    for place in lengthOrder.take given do
      table := table.setIfInBounds place (← bits 3)
    let lengths ← codeOf 7 table
    let steps ← if ← flag then
        let size := 2 + 2 * (← bits 3)
        pure (2 + (← bits size))
      else pure total
    need (steps ≤ total)
    let found ← wordLengths lengths total steps 8 #[]
    codeOf 15 (found ++ Array.replicate (total - found.size) 0)

/-- The codes for a part of the picture. Green stands together with lengths and names of colours. -/
structure Codes where
  green : Canonical
  red : Canonical
  blue : Canonical
  alpha : Canonical
  distance : Canonical
deriving Inhabited

def codes (named : Nat) : BitScan Codes := do
  let green ← code (280 + named)
  let red ← code 256
  let blue ← code 256
  let alpha ← code 256
  return ⟨green, red, blue, alpha, ← code 40⟩

/-! ## The latest colours -/

/-- The latest colours, each in the one of `twoTo size` places where its number puts it. -/
structure Latest where
  size : Nat
  colours : Array Colour

def Latest.place (l : Latest) (c : Colour) : Nat :=
  let word := ((c.alpha.toUInt32 <<< 24) ||| (c.red.toUInt32 <<< 16)) |||
    ((c.green.toUInt32 <<< 8) ||| c.blue.toUInt32)
  ((word * 0x1e35a7bd) >>> (32 - UInt32.ofNat l.size)).toNat

def Latest.put (l : Latest) (c : Colour) : Latest :=
  if l.size = 0 then l else { l with colours := l.colours.setIfInBounds (l.place c) c }

/-! ## Points -/

/-- A number of lengths or distances: a symbol names a range, and bits a place in it. -/
def ranged (symbol : Nat) : BitScan Nat := do
  if symbol < 4 then return symbol + 1
  let extra := (symbol - 2) / 2
  return (2 + symbol % 2) * twoTo extra + (← bits extra) + 1

/-- The nearest points, by columns and rows back from a point; a negative column is to the right. -/
def nearby : Array (Int × Nat) :=
  #[(0, 1), (1, 0), (1, 1), (-1, 1), (0, 2), (2, 0), (1, 2), (-1, 2), (2, 1), (-2, 1), (2, 2),
    (-2, 2), (0, 3), (3, 0), (1, 3), (-1, 3), (3, 1), (-3, 1), (2, 3), (-2, 3), (3, 2), (-3, 2),
    (0, 4), (4, 0), (1, 4), (-1, 4), (4, 1), (-4, 1), (3, 3), (-3, 3), (2, 4), (-2, 4), (4, 2),
    (-4, 2), (0, 5), (3, 4), (-3, 4), (4, 3), (-4, 3), (5, 0), (1, 5), (-1, 5), (5, 1), (-5, 1),
    (2, 5), (-2, 5), (5, 2), (-5, 2), (4, 4), (-4, 4), (3, 5), (-3, 5), (5, 3), (-5, 3), (0, 6),
    (6, 0), (1, 6), (-1, 6), (6, 1), (-6, 1), (2, 6), (-2, 6), (6, 2), (-6, 2), (4, 5), (-4, 5),
    (5, 4), (-5, 4), (3, 6), (-3, 6), (6, 3), (-6, 3), (0, 7), (7, 0), (1, 7), (-1, 7), (5, 5),
    (-5, 5), (7, 1), (-7, 1), (4, 6), (-4, 6), (6, 4), (-6, 4), (2, 7), (-2, 7), (7, 2), (-7, 2),
    (3, 7), (-3, 7), (7, 3), (-7, 3), (5, 6), (-5, 6), (6, 5), (-6, 5), (8, 0), (4, 7), (-4, 7),
    (7, 4), (-7, 4), (8, 1), (8, 2), (6, 6), (-6, 6), (8, 3), (5, 7), (-5, 7), (7, 5), (-7, 5),
    (8, 4), (6, 7), (-6, 7), (7, 6), (-7, 6), (8, 5), (7, 7), (-7, 7), (8, 6), (8, 7)]

def pointsBack (width distance : Nat) : Nat :=
  match nearby[distance - 1]? with
  | some (right, down) => (right + down * width).toNat.max 1
  | none => distance - 120

def repeated (found : Array Colour) (latest : Latest) (back : Nat) :
    Nat → Array Colour × Latest
  | 0 => (found, latest)
  | count + 1 =>
    let c := found.getD (found.size - back) .clear
    repeated (found.push c) (latest.put c) back count

/-- Reads points until there are as many as the sides say; each word brings one at least. `codesAt`
tells which codes hold for a point. -/
def points (sides : Sides) (codesAt : Nat → Codes) :
    (fuel : Nat) → Latest → Array Colour → BitScan (Array Colour)
  | 0, _, found => return found
  | fuel + 1, latest, found => do
    if sides.area ≤ found.size then return found
    let codes := codesAt found.size
    let word ← next codes.green
    if word < 256 then
      let red ← next codes.red
      let blue ← next codes.blue
      let alpha ← next codes.alpha
      let c : Colour := ⟨UInt8.ofNat red, UInt8.ofNat word, UInt8.ofNat blue, UInt8.ofNat alpha⟩
      points sides codesAt fuel (latest.put c) (found.push c)
    else if word < 280 then
      let length ← ranged (word - 256)
      let distance ← ranged (← next codes.distance)
      let back := pointsBack sides.width distance
      need (back ≤ found.size && length ≤ sides.area - found.size)
      let (found, latest) := repeated found latest back length
      points sides codesAt fuel latest found
    else
      let c := latest.colours.getD (word - 280) .clear
      points sides codesAt fuel (latest.put c) (found.push c)

/-- The size of the list of latest colours, as a power of two; zero for no list. -/
def latestSize : BitScan Nat := do
  if ← flag then
    let size ← bits 4
    need (1 ≤ size && size ≤ 11)
    return size
  else return 0

def Latest.ofSize (size : Nat) : Latest :=
  ⟨size, Array.replicate (if size = 0 then 0 else twoTo size) .clear⟩

def Latest.count (l : Latest) : Nat := l.colours.size

def evenPoints (sides : Sides) : BitScan (Array Colour) := do
  let latest := Latest.ofSize (← latestSize)
  let codes ← codes latest.count
  points sides (fun _ => codes) sides.area latest #[]

/-- The sides when squares of `twoTo size` points a side become one. -/
def reduced (sides : Sides) (size : Nat) : Sides :=
  ⟨(sides.width + twoTo size - 1) / twoTo size, (sides.height + twoTo size - 1) / twoTo size⟩

def manyCodes (named : Nat) : (count : Nat) → Array Codes → BitScan (Array Codes)
  | 0, found => return found
  | count + 1, found => do manyCodes named count (found.push (← codes named))

def placedPoints (sides : Sides) : BitScan (Array Colour) := do
  let latest := Latest.ofSize (← latestSize)
  if ← flag then
    let size := 2 + (← bits 3)
    let small := reduced sides size
    let numbers := (← evenPoints small).map fun c => c.red.toNat * 256 + c.green.toNat
    let all ← manyCodes latest.count (numbers.foldl max 0 + 1) #[]
    let codesAt (i : Nat) : Codes :=
      let x := i % sides.width / twoTo size
      let y := i / sides.width / twoTo size
      all.getD (numbers.getD (y * small.width + x) 0) default
    points sides codesAt sides.area latest #[]
  else
    let codes ← codes latest.count
    points sides (fun _ => codes) sides.area latest #[]

/-! ## Changes -/

inductive Change
  | guess (size : Nat) (modes : Array Colour)
  | mix (size : Nat) (factors : Array Colour)
  | green
  | count (colours : Array Colour)

def sharing (colours : Nat) : Nat :=
  if colours ≤ 2 then 3 else if colours ≤ 4 then 2 else if colours ≤ 16 then 1 else 0

def sum (a b : Colour) : Colour :=
  ⟨a.red + b.red, a.green + b.green, a.blue + b.blue, a.alpha + b.alpha⟩

def eachPart (f : Nat → Nat → Nat → Nat) (a b c : Colour) : Colour :=
  let part (get : Colour → UInt8) : UInt8 :=
    UInt8.ofNat (f (get a).toNat (get b).toNat (get c).toNat)
  ⟨part (·.red), part (·.green), part (·.blue), part (·.alpha)⟩

def mean (a b : Colour) : Colour := eachPart (fun x y _ => (x + y) / 2) a b a

def clamp (n : Int) : Nat := min n.toNat 255

def nearer (left up corner : Colour) : Colour :=
  let apart (a b : Colour) : Nat :=
    let part (get : Colour → UInt8) : Nat := ((get a).toNat - (get b).toNat : Int).natAbs
    part (·.red) + part (·.green) + part (·.blue) + part (·.alpha)
  if apart up corner < apart left corner then left else up

def guessed (mode : Nat) (left up corner right : Colour) : Colour :=
  match mode with
  | 1 => left
  | 2 => up
  | 3 => right
  | 4 => corner
  | 5 => mean (mean left right) up
  | 6 => mean left corner
  | 7 => mean left up
  | 8 => mean corner up
  | 9 => mean up right
  | 10 => mean (mean left corner) (mean up right)
  | 11 => nearer left up corner
  | 12 => eachPart (fun l u c => clamp ((l + u : Int) - c)) left up corner
  | 13 => eachPart (fun m c _ => clamp (m + Int.tdiv ((m : Int) - c) 2)) (mean left up) corner left
  | _ => .solid 0 0 0

/-- Adds the guesses; the first row and column have guesses of their own. -/
def unguess (sides : Sides) (size : Nat) (modes given : Array Colour) : Array Colour :=
  let across := (reduced sides size).width
  (List.range sides.area).foldl (fun done i =>
    let x := i % sides.width
    let y := i / sides.width
    let before (back : Nat) : Colour := done.getD (i - back) .clear
    let guess :=
      if i = 0 then .solid 0 0 0
      else if y = 0 then before 1
      else if x = 0 then before sides.width
      else
        let mode := (modes.getD (y / twoTo size * across + x / twoTo size) .clear).green.toNat
        guessed mode (before 1) (before sides.width) (before (sides.width + 1))
          (before (sides.width - 1))
    done.push (sum (given.getD i .clear) guess)) #[]

def signed (b : UInt8) : Int := if b < 128 then b.toNat else (b.toNat : Int) - 256

def share (factor part : UInt8) : UInt8 :=
  UInt8.ofNat ((signed factor * signed part).fdiv 32 % 256).toNat

def unmix (factors c : Colour) : Colour :=
  let red := c.red + share factors.blue c.green
  { c with red, blue := c.blue + share factors.green c.green + share factors.red red }

def Change.undone (sides : Sides) (given : Array Colour) : Change → Array Colour
  | guess size modes => unguess sides size modes given
  | mix size factors =>
    let across := (reduced sides size).width
    given.mapIdx fun i c =>
      let x := i % sides.width / twoTo size
      let y := i / sides.width / twoTo size
      unmix (factors.getD (y * across + x) .clear) c
  | green => given.map fun c => { c with red := c.red + c.green, blue := c.blue + c.green }
  | count colours =>
    let size := sharing colours.size
    let across := (reduced ⟨sides.width, 1⟩ size).width
    let depth := 8 / twoTo size
    Array.ofFn (n := sides.area) fun i =>
      let x := i % sides.width
      let shared := given.getD (i / sides.width * across + x / twoTo size) .clear
      colours.getD ((shared.green.toNat >>> (x % twoTo size * depth)) % twoTo depth) .clear

def change (sides : Sides) : BitScan (Change × Sides) := do
  match ← bits 2 with
  | 0 =>
    let size := 2 + (← bits 3)
    return (.guess size (← evenPoints (reduced sides size)), sides)
  | 1 =>
    let size := 2 + (← bits 3)
    return (.mix size (← evenPoints (reduced sides size)), sides)
  | 2 => return (.green, sides)
  | _ =>
    let count := 1 + (← bits 8)
    let steps ← evenPoints ⟨count, 1⟩
    let next (done : Array Colour) (step : Colour) : Array Colour :=
      done.push (sum (done.getD (done.size - 1) .clear) step)
    let colours := steps.foldl next #[]
    return (.count colours, { sides with width := (reduced sides (sharing count)).width })

def Change.sameKind : Change → Change → Bool
  | guess .., guess .. | mix .., mix .. | green, green | count _, count _ => true
  | _, _ => false

/-- Reads the changes, each at most once, with the sides that each leads to, the last one first. -/
def changes (sides : Sides) : (fuel : Nat) → List (Change × Sides) →
    BitScan (List (Change × Sides) × Sides)
  | 0, _ => failure
  | fuel + 1, found => do
    if ← flag then
      let (change, small) ← change sides
      need (!found.any fun (other, _) => other.sameKind change)
      changes small fuel ((change, sides) :: found)
    else return (found, sides)

/-! ## Pictures -/

def header : BitScan (Sides × Bool) := do
  need ((← bits 8) = 0x2f)
  let width := 1 + (← bits 14)
  let height := 1 + (← bits 14)
  let hasAlpha ← flag
  need ((← bits 3) = 0)
  return (⟨width, height⟩, hasAlpha)

def picture : BitScan Raster := do
  let (sides, hasAlpha) ← header
  need (sides.haveRoom 4)
  let (changes, small) ← changes sides 5 []
  let given ← placedPoints small
  let done := changes.foldl (fun points (change, sides) => change.undone sides points) given
  return .ofFn sides fun x y =>
    let c := done.getD (y * sides.width + x) .clear
    if hasAlpha then c else { c with alpha := 255 }

end Depot.Pictures.Webp.Lossless
