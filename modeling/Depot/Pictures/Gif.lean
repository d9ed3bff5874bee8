import Depot.Bytes.Scan
import Depot.Number.Power
import Depot.Pictures.Raster

/-!
Pictures in the format GIF: a screen, a palette, and frames whose points are numbers of palette
colours, packed with a dictionary that grows while it is read. Of several frames the first one
counts.
-/

namespace Depot.Pictures.Gif

open Bytes

structure Screen where
  sides : Sides
  palette : Option ByteArray

def palette (flags : Nat) : Scan (Option ByteArray) := do
  if flags / 128 % 2 = 1 then return some (← Scan.take (3 * twoTo (flags % 8 + 1)))
  else return none

def screen : Scan Screen := do
  let _ ← Scan.pass 6
  let sides : Sides := ⟨← Scan.low 2, ← Scan.low 2⟩
  let flags ← Scan.byte
  let _ ← Scan.pass 2
  return ⟨sides, ← palette flags⟩

def blocks (found : ByteArray) : (fuel : Nat) → Scan ByteArray
  | 0 => failure
  | fuel + 1 => do
    let length ← Scan.byte
    if length = 0 then return found
    blocks (found ++ (← Scan.take length)) fuel

def toFrame (clear : Option Nat) : (fuel : Nat) → Scan (Option Nat)
  | 0 => failure
  | fuel + 1 => do
    match ← Scan.byte with
    | 0x2c => return clear
    | 0x21 =>
      let label ← Scan.byte
      let content ← blocks ByteArray.empty (← Scan.left)
      if label = 0xf9 then
        Scan.need (content.size = 4)
        let named := (byteAt content 3).toNat
        toFrame (if (byteAt content 0).toNat % 2 = 1 then some named else none) fuel
      else toFrame clear fuel
    | _ => failure

def measure : Scan Sides := do
  let screen ← screen
  let here ← Scan.place
  if hasAt (← read) here [0x21, 0xf9] then return screen.sides
  let _ ← toFrame none (← Scan.left)
  return screen.sides

def sides? (bytes : ByteArray) : Option Sides := measure.ofContent bytes

/-! ## The growing dictionary -/

/-- An entry is a known sequence with one number more; the first entries are single numbers. -/
structure Entry where
  before : Nat
  last : UInt8
  first : UInt8
  length : Nat
deriving Inhabited

structure Unpacking where
  entries : Array Entry
  width : Nat
  previous : Option Nat := none
  out : Array UInt8 := #[]

def fresh (depth : Nat) : Array Entry :=
  Array.ofFn (n := twoTo depth + 2) fun i => ⟨0, UInt8.ofNat i, UInt8.ofNat i, 1⟩

def spell (entries : Array Entry) : (count index : Nat) → List UInt8 → List UInt8
  | 0, _, rest => rest
  | count + 1, index, rest =>
    match entries[index]? with
    | some e => spell entries count e.before (e.last :: rest)
    | none => rest

/-- The words have 12 bits at most. -/
def Unpacking.grown (u : Unpacking) (entry : Entry) : Unpacking :=
  if u.entries.size < 4096 then
    let entries := u.entries.push entry
    let isFull := entries.size = twoTo u.width ∧ u.width < 12
    { u with entries, width := if isFull then u.width + 1 else u.width }
  else u

def Unpacking.take (u : Unpacking) (word : Nat) : Option Unpacking :=
  match u.previous.bind (u.entries[·]?) with
  | none => do
    let e ← u.entries[word]?
    return { u with previous := some word, out := u.out.push e.last }
  | some previous => do
    let before := u.previous.getD 0
    -- the word may be the very entry that is made now
    let first ← if word = u.entries.size then some previous.first
      else (u.entries[word]?).map (·.first)
    let u := u.grown ⟨before, first, previous.first, previous.length + 1⟩
    let e ← u.entries[word]?
    let spelled := (spell u.entries e.length word []).toArray
    return { u with previous := some word, out := u.out ++ spelled }

def unpack (packed : ByteArray) (depth total : Nat) :
    (fuel place : Nat) → Unpacking → Option (Array UInt8)
  | 0, _, u => if total ≤ u.out.size then some (u.out.extract 0 total) else none
  | fuel + 1, place, u =>
    if total ≤ u.out.size then some (u.out.extract 0 total)
    else if 8 * packed.size < place + u.width then none
    else
      let word := (lowFirst packed (place / 8) 3 >>> (place % 8)) % twoTo u.width
      if word = twoTo depth then
        unpack packed depth total fuel (place + u.width)
          { u with entries := fresh depth, width := depth + 1, previous := none }
      else if word = twoTo depth + 1 then none
      else do
        let next ← u.take word
        unpack packed depth total fuel (place + u.width) next

/-- The row of the screen in which each row of an interlaced frame stands. -/
def interlaced (height : Nat) : List Nat :=
  let every (start step : Nat) : List Nat :=
    (List.range height).filter fun y => start ≤ y ∧ (y - start) % step = 0
  every 0 8 ++ every 4 8 ++ every 2 4 ++ every 1 2

def picture : Scan Raster := do
  let screen ← screen
  Scan.need (screen.sides.haveRoom 4)
  let clear ← toFrame none (← Scan.left)
  let left ← Scan.low 2
  let top ← Scan.low 2
  let frame : Sides := ⟨← Scan.low 2, ← Scan.low 2⟩
  let flags ← Scan.byte
  let own ← palette flags
  let colours ← Scan.given (own <|> screen.palette)
  let depth ← Scan.byte
  Scan.need (1 ≤ depth && depth ≤ 11)
  let packed ← blocks ByteArray.empty (← Scan.left)
  let numbers ← Scan.given (unpack packed depth frame.area (8 * packed.size) 0
    { entries := fresh depth, width := depth + 1 })
  let order := if flags / 64 % 2 = 1 then (interlaced frame.height).toArray
    else Array.range frame.height
  let rowOf (y : Nat) : Nat := (order.idxOf? y).getD 0
  let rows := Array.ofFn (n := frame.height) fun y => rowOf y
  let colour (number : Nat) : Colour :=
    if colours.size < 3 * number + 3 then .clear
    else
      let alpha := if clear = some number then 0 else 255
      ⟨byteAt colours (3 * number), byteAt colours (3 * number + 1),
        byteAt colours (3 * number + 2), alpha⟩
  return .ofFn screen.sides fun x y =>
    if left ≤ x ∧ x < left + frame.width ∧ top ≤ y ∧ y < top + frame.height then
      colour (numbers.getD (rows.getD (y - top) 0 * frame.width + (x - left)) 0).toNat
    else .clear

def read? (bytes : ByteArray) : Option Raster := picture.ofContent bytes

end Depot.Pictures.Gif
