import Depot.Bytes.Scan
import Depot.Number.Power

/-!
The digest BLAKE2b: a message of any length gives as many bytes as are wanted, from 1 to 64. The
message is cut into blocks of 128 bytes, the last one filled up with zeros, and every block is mixed
into a state of eight words in twelve rounds.
-/

namespace Depot.Digests.Blake2b

def constants : Array UInt64 :=
  #[0x6a09e667f3bcc908, 0xbb67ae8584caa73b, 0x3c6ef372fe94f82b, 0xa54ff53a5f1d36f1,
    0x510e527fade682d1, 0x9b05688c2b3e6c1f, 0x1f83d9abfb41bd6b, 0x5be0cd19137e2179]

/-- The order in which the words of a block are taken in each round; the last two rounds are like
the first two. -/
def orders : List (List Nat) :=
  [[0, 1, 2, 3, 4, 5, 6, 7, 8, 9, 10, 11, 12, 13, 14, 15],
    [14, 10, 4, 8, 9, 15, 13, 6, 1, 12, 0, 2, 11, 7, 5, 3],
    [11, 8, 12, 0, 5, 2, 15, 13, 10, 14, 3, 6, 7, 1, 9, 4],
    [7, 9, 3, 1, 13, 12, 11, 14, 2, 6, 5, 10, 4, 0, 15, 8],
    [9, 0, 5, 7, 2, 4, 10, 15, 14, 1, 11, 12, 6, 8, 3, 13],
    [2, 12, 6, 10, 0, 11, 8, 3, 4, 13, 7, 5, 15, 14, 1, 9],
    [12, 5, 1, 15, 14, 13, 4, 10, 0, 7, 6, 3, 9, 2, 8, 11],
    [13, 11, 7, 14, 12, 1, 3, 9, 5, 0, 15, 4, 8, 6, 2, 10],
    [6, 15, 14, 9, 11, 3, 0, 8, 12, 2, 13, 7, 1, 4, 10, 5],
    [10, 2, 8, 4, 7, 6, 1, 5, 15, 11, 9, 14, 3, 12, 13, 0],
    [0, 1, 2, 3, 4, 5, 6, 7, 8, 9, 10, 11, 12, 13, 14, 15],
    [14, 10, 4, 8, 9, 15, 13, 6, 1, 12, 0, 2, 11, 7, 5, 3]]

/-- The words that are mixed with each other: the columns of a square, then its diagonals. -/
def quarters : List (Nat × Nat × Nat × Nat) :=
  [(0, 4, 8, 12), (1, 5, 9, 13), (2, 6, 10, 14), (3, 7, 11, 15),
    (0, 5, 10, 15), (1, 6, 11, 12), (2, 7, 8, 13), (3, 4, 9, 14)]

@[inline] def rotate (w count : UInt64) : UInt64 := (w >>> count) ||| (w <<< (64 - count))

def mix (square : Array UInt64) (at4 : Nat × Nat × Nat × Nat) (x y : UInt64) : Array UInt64 :=
  let (i, j, k, l) := at4
  let a := square.getD i 0 + square.getD j 0 + x
  let d := rotate (square.getD l 0 ^^^ a) 32
  let c := square.getD k 0 + d
  let b := rotate (square.getD j 0 ^^^ c) 24
  let a := a + b + y
  let d := rotate (d ^^^ a) 16
  let c := c + d
  let b := rotate (b ^^^ c) 63
  (((square.setIfInBounds i a).setIfInBounds j b).setIfInBounds k c).setIfInBounds l d

def round (block square : Array UInt64) (order : List Nat) : Array UInt64 :=
  let rec go : List (Nat × Nat × Nat × Nat) → List Nat → Array UInt64 → Array UInt64
    | quarter :: rest, x :: y :: order, square =>
      go rest order (mix square quarter (block.getD x 0) (block.getD y 0))
    | _, _, square => square
  go quarters order square

/-- Mixes a block into a state; `count` is how many bytes of the message there are up to its end. -/
def compress (state block : Array UInt64) (count : Nat) (isLast : Bool) : Array UInt64 :=
  let square := state ++ constants.mapIdx fun i word =>
    match i with
    | 4 => word ^^^ UInt64.ofNat count
    | 5 => word ^^^ UInt64.ofNat (count / twoTo 64)
    | 6 => if isLast then ~~~ word else word
    | _ => word
  let mixed := orders.foldl (round block) square
  state.mapIdx fun i word => word ^^^ mixed.getD i 0 ^^^ mixed.getD (i + 8) 0

def blockAt (bytes : ByteArray) (place : Nat) : Array UInt64 :=
  Array.ofFn (n := 16) fun i => UInt64.ofNat (Bytes.lowFirst bytes (place + 8 * i) 8)

/-- Mixes the blocks from a place on; there is always one block, if an empty one. -/
def absorb (bytes : ByteArray) (place : Nat) (state : Array UInt64) : Array UInt64 :=
  if _more : place + 128 < bytes.size then
    absorb bytes (place + 128) (compress state (blockAt bytes place) (place + 128) false)
  else compress state (blockAt bytes place) bytes.size true
termination_by bytes.size - place
decreasing_by omega

def wordBytes (w : UInt64) : List UInt8 :=
  (List.range 8).map fun i => (w >>> UInt64.ofNat (8 * i)).toUInt8

def digest (length : Nat) (message : ByteArray) : ByteArray :=
  let start := constants.mapIdx fun i word =>
    if i = 0 then word ^^^ 0x01010000 ^^^ UInt64.ofNat length else word
  let bytes := (absorb message 0 start).toList.flatMap wordBytes
  ⟨(bytes.take length).toArray⟩

end Depot.Digests.Blake2b
