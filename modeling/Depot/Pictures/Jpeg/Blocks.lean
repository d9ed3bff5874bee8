import Depot.Number.Power
import Depot.Pictures.Jpeg.Frame

/-!
The waves of a JPEG's planes. Each plane is cut into blocks of eight by eight points, and a block is
the sum of 64 waves. A scan brings the sizes of some waves, or one more bit of them, in canonical
codes, the highest bit of every byte first. What is missing at the end counts as zero bits.
-/

namespace Depot.Pictures.Jpeg

open Bytes Codes

structure Walk where
  place : Nat := 0
  waves : Array Int
  last : Array Int := Array.replicate 4 0
  /-- How many blocks bring nothing more. -/
  silent : Nat := 0

abbrev Walking (α : Type) := ReaderT ByteArray (StateT Walk Option) α

namespace Walking

def bitAt (bytes : ByteArray) (place : Nat) : Nat :=
  ((byteAt bytes (place / 8)).toNat >>> (7 - place % 8)) % 2

def bit : Walking Nat := do
  let walk ← get
  set { walk with place := walk.place + 1 }
  return bitAt (← read) walk.place

def bits : Nat → Walking Nat
  | 0 => return 0
  | count + 1 => do
    let high ← bits count
    return 2 * high + (← bit)

def symbol (code : Canonical) : Walking Nat := do
  let bytes ← read
  let here := (← get).place
  match code.first? fun i => bitAt bytes (here + i) with
  | none => failure
  | some (symbol, used) =>
    modify fun walk => { walk with place := walk.place + used }
    return symbol

/-- A number of some bits; those that start with a zero bit are negative. -/
def size (count : Nat) : Walking Int := do
  let n ← bits count
  return if n < twoTo count / 2 then (n : Int) - (twoTo count - 1 : Nat) else n

def wave (place : Nat) : Walking Int := do return (← get).waves.getD place 0

def setWave (place : Nat) (value : Int) : Walking Unit :=
  modify fun walk => { walk with waves := walk.waves.setIfInBounds place value }

def inBlock (block index : Nat) : Nat := block + waveOrder.getD index 0

/-- The first wave of a block differs from the one before. -/
def firstWave (code : Canonical) (plane block shift : Nat) : Walking Unit := do
  let change ← size (← symbol code)
  let value := (← get).last.getD plane 0 + change
  modify fun walk => { walk with last := walk.last.setIfInBounds plane value }
  setWave block (value * (twoTo shift : Nat))

def refineFirst (block shift : Nat) : Walking Unit := do
  let b ← bit
  setWave block ((← wave block) + (b * twoTo shift : Nat))

/-- The sizes of later waves: each symbol tells how many zeros come first and how many bits follow.
Without bits, it ends the block, or some more blocks, or stands for 16 zeros. -/
def laterWaves (code : Canonical) (block high shift : Nat) : (fuel index : Nat) → Walking Unit
  | 0, _ => return ()
  | fuel + 1, index => do
    if high < index then return ()
    let symbol ← symbol code
    let zeros := symbol / 16
    match symbol % 16 with
    | 0 =>
      if zeros = 15 then laterWaves code block high shift fuel (index + 16)
      else
        let more ← bits zeros
        modify fun walk => { walk with silent := twoTo zeros - 1 + more }
    | count =>
      let value ← size count
      if index + zeros ≤ high then
        setWave (inBlock block (index + zeros)) (value * (twoTo shift : Nat))
      laterWaves code block high shift fuel (index + zeros + 1)

def refine (place shift : Nat) : Walking Unit := do
  let value ← wave place
  if (← bit) = 1 then
    let step : Int := (twoTo shift : Nat)
    setWave place (if value < 0 then value - step else value + step)

/-- Goes on over waves, refining those that are not zero, until `zeros` zeros have been passed and
another zero is reached. Gives the index reached. -/
def refineOver (block high shift : Nat) : (fuel index zeros : Nat) → Walking Nat
  | 0, index, _ => return index
  | fuel + 1, index, zeros => do
    if high < index then return index
    let place := inBlock block index
    if (← wave place) ≠ 0 then
      refine place shift
      refineOver block high shift fuel (index + 1) zeros
    else if zeros = 0 then return index
    else refineOver block high shift fuel (index + 1) (zeros - 1)

def refineAll (block high shift : Nat) : (fuel index : Nat) → Walking Unit
  | 0, _ => return ()
  | fuel + 1, index => do
    if high < index then return ()
    let place := inBlock block index
    if (← wave place) ≠ 0 then refine place shift
    refineAll block high shift fuel (index + 1)

def refineLater (code : Canonical) (block high shift : Nat) : (fuel index : Nat) → Walking Unit
  | 0, _ => return ()
  | fuel + 1, index => do
    if high < index then return ()
    let symbol ← symbol code
    let zeros := symbol / 16
    if symbol % 16 = 0 ∧ zeros < 15 then
      let more ← bits zeros
      modify fun walk => { walk with silent := twoTo zeros - 1 + more }
      refineAll block high shift 64 index
    else
      let value : Int ← if symbol % 16 = 0 then pure 0
        else do
          let step : Int := (twoTo shift : Nat)
          pure (if (← bit) = 1 then step else -step)
      let index ← refineOver block high shift 64 index zeros
      if value ≠ 0 ∧ index ≤ high then setWave (inBlock block index) value
      refineLater code block high shift fuel (index + 1)

/-- Runs a read of later waves unless the block is one that brings nothing. -/
def unlessSilent (silently act : Walking Unit) : Walking Unit := do
  if 0 < (← get).silent then
    modify fun walk => { walk with silent := walk.silent - 1 }
    silently
  else act

def block (head : ScanHead) (first later : Canonical) (plane place : Nat) : Walking Unit := do
  let shift := head.bitsNow
  if head.bitsBefore = 0 then
    if head.low = 0 then firstWave first plane place shift
    if 0 < head.high then
      unlessSilent (return ()) (laterWaves later place head.high shift 64 (max head.low 1))
  else
    if head.low = 0 then refineFirst place shift
    if 0 < head.high then
      let start := max head.low 1
      unlessSilent (refineAll place head.high shift 64 start)
        (refineLater later place head.high shift 64 start)

end Walking

def starts (f : Frame) : List Nat :=
  (f.planes.foldl (fun (found, next) p => (found ++ [next], next + 64 * (f.blocks p).area))
    (([] : List Nat), 0)).1

def total (f : Frame) : Nat := f.planes.foldl (fun sum p => sum + 64 * (f.blocks p).area) 0

abbrev Target := Share × Nat

/-- The blocks of a group. A scan with a single plane takes single blocks as groups. -/
def targets (f : Frame) (head : ScanHead) (group : Nat) : List Target :=
  let plane (s : Share) : Plane := f.planes.getD s.index default
  let start (s : Share) : Nat := (starts f).getD s.index 0
  match head.shares with
  | [s] =>
    let across := (f.ownBlocks (plane s)).width
    [(s, start s + 64 * (group / across * (f.blocks (plane s)).width + group % across))]
  | shares =>
    let x := group % f.groups.width
    let y := group / f.groups.width
    shares.flatMap fun s =>
      let p := plane s
      (List.range (p.across * p.down)).map fun i =>
        let column := x * p.across + i % p.across
        let row := y * p.down + i / p.across
        (s, start s + 64 * (row * (f.blocks p).width + column))

def groupCount (f : Frame) (head : ScanHead) : Nat :=
  match head.shares with
  | [s] => (f.ownBlocks (f.planes.getD s.index default)).area
  | _ => f.groups.area

def readGroups (t : Tables) (f : Frame) (head : ScanHead) : (count group : Nat) → Walking Unit
  | 0, _ => return ()
  | count + 1, group => do
    for (s, place) in targets f head group do
      Walking.block head (t.first.getD s.first default) (t.later.getD s.later default) s.index place
    readGroups t f head count (group + 1)

/-- Splits what follows a scan's head into parts between restarts, without the zero bytes that only
keep marks apart. Gives the place of the mark that ends the scan too. -/
def parts (bytes : ByteArray) : (fuel place : Nat) → ByteArray → List ByteArray →
    List ByteArray × Nat
  | 0, place, part, found => ((part :: found).reverse, place)
  | fuel + 1, place, part, found =>
    if bytes.size ≤ place then ((part :: found).reverse, place)
    else
      let b := byteAt bytes place
      let next := byteAt bytes (place + 1)
      if b ≠ 0xff then parts bytes fuel (place + 1) (part.push b) found
      else if next = 0 then parts bytes fuel (place + 2) (part.push b) found
      else if next = 0xff then parts bytes fuel (place + 1) part found
      else if 0xd0 ≤ next ∧ next ≤ 0xd7 then
        parts bytes fuel (place + 2) ByteArray.empty (part :: found)
      else ((part :: found).reverse, place)

/-- Reads the parts of a scan, which start anew after so many groups. -/
def readParts (t : Tables) (f : Frame) (head : ScanHead) (total each : Nat) :
    (group : Nat) → List ByteArray → Array Int → Option (Array Int)
  | _, [], waves => some waves
  | group, part :: rest, waves => do
    let count := if each = 0 then total - group else min each (total - group)
    let (_, walk) ← ((readGroups t f head count group).run part).run { waves }
    readParts t f head total each (group + count) rest walk.waves

def readScan (t : Tables) (f : Frame) (head : ScanHead) (waves : Array Int) : Scan (Array Int) := do
  let bytes ← read
  let (parts, ending) := parts bytes (← Scan.left) (← Scan.place) ByteArray.empty []
  Scan.goTo ending
  Scan.given (readParts t f head (groupCount f head) t.restart 0 parts waves)

def readScans (f : Frame) : (fuel : Nat) → Tables × ScanHead → Array Int → Scan (Tables × Array Int)
  | 0, (t, _), waves => return (t, waves)
  | fuel + 1, (t, head), waves => do
    let waves ← readScan t f head waves
    -- a picture that breaks off ends where it does
    let ending := (← Scan.left) = 0
    if ending then return (t, waves)
    match ← toScan (← Scan.left) t with
    | none => return (t, waves)
    | some next => readScans f fuel next waves

end Depot.Pictures.Jpeg
