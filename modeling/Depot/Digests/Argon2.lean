import Depot.Digests.Blake2b
import Depot.Number.Power

/-!
The password digest Argon2, which takes a chosen amount of memory. The memory is a table of blocks
of 1024 bytes; its rows are called lanes, and each lane is cut into four slices. Every block is
mixed from the block before it and one that is chosen from those that are there already: by numbers
that depend on the content, by numbers that do not, or by these first and by those later.
-/

namespace Depot.Digests.Argon2

open Bytes

inductive Choice
  /-- By the content. -/
  | d
  /-- By the position alone. -/
  | i
  /-- By the position in the first half of the first pass, and then by the content. -/
  | id
deriving DecidableEq, Repr

def Choice.number : Choice → Nat
  | d => 0
  | i => 1
  | id => 2

/-- The two ways of later passes: to replace the blocks, or to add to them. -/
inductive Version
  | replacing
  | adding
deriving DecidableEq, Repr

def Version.number : Version → Nat
  | replacing => 0x10
  | adding => 0x13

structure Cost where
  choice : Choice := .id
  version : Version := .adding
  memory : Nat := 19456
  passes : Nat := 2
  lanes : Nat := 1
  length : Nat := 32
  data : ByteArray := ByteArray.empty

/-! ## Blocks -/

structure Pair where
  low : UInt64
  high : UInt64
deriving Inhabited

abbrev Block := Array Pair

def Pair.xor (a b : Pair) : Pair := ⟨a.low ^^^ b.low, a.high ^^^ b.high⟩

def Block.zero : Block := Array.replicate 64 ⟨0, 0⟩

def Block.xor (a b : Block) : Block := a.mapIdx fun i p => p.xor (b.getD i ⟨0, 0⟩)

@[inline] def blend (a b : UInt64) : UInt64 :=
  a + b + 2 * ((a &&& 0xffffffff) * (b &&& 0xffffffff))

structure Four where
  a : UInt64
  b : UInt64
  c : UInt64
  d : UInt64

@[inline] def quarter (a b c d : UInt64) : Four :=
  let a := blend a b
  let d := Blake2b.rotate (d ^^^ a) 32
  let c := blend c d
  let b := Blake2b.rotate (b ^^^ c) 24
  let a := blend a b
  let d := Blake2b.rotate (d ^^^ a) 16
  let c := blend c d
  let b := Blake2b.rotate (b ^^^ c) 63
  ⟨a, b, c, d⟩

/-- Mixes eight pairs of a block, from `start` on and `step` apart: as a square of four by four
words, first its columns and then its diagonals. -/
def mixLine (block : Block) (start step : Nat) : Block :=
  let pair (i : Nat) : Pair := block.getD (start + i * step) ⟨0, 0⟩
  let p0 := pair 0
  let p1 := pair 1
  let p2 := pair 2
  let p3 := pair 3
  let p4 := pair 4
  let p5 := pair 5
  let p6 := pair 6
  let p7 := pair 7
  let q0 := quarter p0.low p2.low p4.low p6.low
  let q1 := quarter p0.high p2.high p4.high p6.high
  let q2 := quarter p1.low p3.low p5.low p7.low
  let q3 := quarter p1.high p3.high p5.high p7.high
  let r0 := quarter q0.a q1.b q2.c q3.d
  let r1 := quarter q1.a q2.b q3.c q0.d
  let r2 := quarter q2.a q3.b q0.c q1.d
  let r3 := quarter q3.a q0.b q1.c q2.d
  let put (block : Block) (i : Nat) (p : Pair) : Block := block.setIfInBounds (start + i * step) p
  let block := put (put block 0 ⟨r0.a, r1.a⟩) 1 ⟨r2.a, r3.a⟩
  let block := put (put block 2 ⟨r3.b, r0.b⟩) 3 ⟨r1.b, r2.b⟩
  let block := put (put block 4 ⟨r2.c, r3.c⟩) 5 ⟨r0.c, r1.c⟩
  put (put block 6 ⟨r1.d, r2.d⟩) 7 ⟨r3.d, r0.d⟩

def mixBlocks (a b : Block) : Block :=
  let sum := a.xor b
  let rows := (List.range 8).foldl (fun block i => mixLine block (8 * i) 1) sum
  ((List.range 8).foldl (fun block i => mixLine block i 8) rows).xor sum

def Block.ofBytes (bytes : ByteArray) : Block :=
  Array.ofFn (n := 64) fun i =>
    ⟨UInt64.ofNat (lowFirst bytes (16 * i) 8), UInt64.ofNat (lowFirst bytes (16 * i + 8) 8)⟩

def Block.bytes (b : Block) : ByteArray :=
  ⟨(b.toList.flatMap fun p => Blake2b.wordBytes p.low ++ Blake2b.wordBytes p.high).toArray⟩

def Block.ofWords (words : List Nat) : Block :=
  let words := words.toArray
  Array.ofFn (n := 64) fun i =>
    ⟨UInt64.ofNat (words.getD (2 * i) 0), UInt64.ofNat (words.getD (2 * i + 1) 0)⟩

def Block.word (b : Block) (i : Nat) : Nat :=
  let pair := b.getD (i / 2) ⟨0, 0⟩
  (if i % 2 = 0 then pair.low else pair.high).toNat

/-! ## Digests of any length -/

def word (n : Nat) : ByteArray :=
  ⟨((List.range 4).map fun i => UInt8.ofNat (n / twoTo (8 * i))).toArray⟩

/-- Digests of digests: the first half of each but the last counts. -/
def chain (last : Nat) : (count : Nat) → (digest found : ByteArray) → ByteArray
  | 0, digest, found => found ++ Blake2b.digest last digest
  | count + 1, digest, found =>
    let next := Blake2b.digest 64 digest
    chain last count next (found ++ next.extract 0 32)

def longDigest (length : Nat) (message : ByteArray) : ByteArray :=
  let message := word length ++ message
  if length ≤ 64 then Blake2b.digest length message
  else
    let count := (length + 31) / 32 - 2
    let first := Blake2b.digest 64 message
    chain (length - 32 * count) (count - 1) first (first.extract 0 32)

/-! ## The table -/

/-- The table is kept lane by lane. -/
structure Shape where
  lanes : Nat
  slice : Nat

def Cost.shape (c : Cost) : Shape := ⟨c.lanes, c.memory / (4 * c.lanes)⟩

def Shape.length (s : Shape) : Nat := 4 * s.slice

structure Position where
  pass : Nat
  slice : Nat
  lane : Nat
  index : Nat

def Position.column (p : Position) (s : Shape) : Nat := p.slice * s.slice + p.index

def Cost.byPosition (c : Cost) (p : Position) : Bool :=
  match c.choice with
  | .d => false
  | .i => true
  | .id => p.pass = 0 && p.slice < 2

/-- The numbers that choose by the position come from blocks of their own, each good for 128. -/
def Cost.numbers (c : Cost) (p : Position) : Block :=
  let s := c.shape
  let input := Block.ofWords [p.pass, p.lane, p.slice, 4 * s.slice * s.lanes, c.passes,
    c.choice.number, p.index / 128 + 1]
  mixBlocks .zero (mixBlocks .zero input)

def Shape.chosen (s : Shape) (p : Position) (number : Nat) : Nat :=
  let lane := if p.pass = 0 ∧ p.slice = 0 then p.lane else number / twoTo 32 % s.lanes
  -- whole slices that may be used, and the part of the slice that is being written
  let whole := (if p.pass = 0 then p.slice else 3) * s.slice
  let area := if lane = p.lane then whole + p.index - 1
    else if p.index = 0 then whole - 1 else whole
  let low := number % twoTo 32
  let back := area * (low * low / twoTo 32) / twoTo 32
  let start := if p.pass = 0 then 0 else (p.slice + 1) * s.slice
  lane * s.length + (start + (area - 1 - back)) % s.length

def Cost.write (c : Cost) (numbers : Block) (p : Position) (table : Array Block) : Array Block :=
  let s := c.shape
  let column := p.column s
  let base := p.lane * s.length
  let before := table.getD (base + if column = 0 then s.length - 1 else column - 1) .zero
  let number := if c.byPosition p then numbers.word (p.index % 128) else before.word 0
  let mixed := mixBlocks before (table.getD (s.chosen p number) .zero)
  let block := if p.pass = 0 ∨ c.version = .replacing then mixed
    else mixed.xor (table.getD (base + column) .zero)
  table.setIfInBounds (base + column) block

def Cost.writeSlice (c : Cost) (p : Position) : (count : Nat) → Block → Array Block → Array Block
  | 0, _, table => table
  | count + 1, numbers, table =>
    let here := { p with index := c.shape.slice - (count + 1) }
    let numbers := if here.index % 128 = 0 ∧ c.byPosition here then c.numbers here else numbers
    -- the first two blocks of a lane come from the password
    let table := if p.pass = 0 ∧ p.slice = 0 ∧ here.index < 2 then table
      else c.write numbers here table
    writeSlice c p count numbers table

def Cost.seed (c : Cost) (password salt : ByteArray) : ByteArray :=
  let part (bytes : ByteArray) : ByteArray := word bytes.size ++ bytes
  Blake2b.digest 64 (word c.lanes ++ word c.length ++ word c.memory ++ word c.passes ++
    word c.version.number ++ word c.choice.number ++ part password ++ part salt ++
    part ByteArray.empty ++ part c.data)

def Cost.start (c : Cost) (seed : ByteArray) : Array Block :=
  let s := c.shape
  (List.range s.lanes).foldl (fun table lane =>
    let first (column : Nat) : Block :=
      Block.ofBytes (longDigest 1024 (seed ++ word column ++ word lane))
    (table.setIfInBounds (lane * s.length) (first 0)).setIfInBounds (lane * s.length + 1) (first 1))
    (Array.replicate (s.lanes * s.length) Block.zero)

def digest (c : Cost) (password salt : ByteArray) : ByteArray :=
  let s := c.shape
  let steps := (List.range c.passes).flatMap fun pass =>
    (List.range 4).flatMap fun slice =>
      (List.range s.lanes).map fun lane => (⟨pass, slice, lane, 0⟩ : Position)
  let table := steps.foldl (fun table p => c.writeSlice p s.slice .zero table)
    (c.start (c.seed password salt))
  let last := (List.range s.lanes).foldl (fun sum lane =>
    sum.xor (table.getD (lane * s.length + s.length - 1) .zero)) Block.zero
  longDigest c.length last.bytes

end Depot.Digests.Argon2
