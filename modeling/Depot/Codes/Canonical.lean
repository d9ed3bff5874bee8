/-!
Codes in which every symbol has a word of bits and no word begins another one. A canonical code is
known from the lengths of its words: words of one length are consecutive numbers, in the order of
their symbols, and longer words come after shorter ones.
-/

namespace Depot.Codes

structure Canonical where
  /-- How many words have one bit, two bits, and so on. -/
  counts : List Nat
  symbols : Array Nat
deriving Inhabited

namespace Canonical

def ofLengths (longest : Nat) (lengths : Array Nat) : Canonical :=
  let symbolsOf (length : Nat) : List Nat :=
    (List.range lengths.size).filter fun symbol => lengths.getD symbol 0 = length
  let groups := (List.range longest).map fun i => symbolsOf (i + 1)
  ⟨groups.map List.length, groups.flatten.toArray⟩

/-- How many words of the last length could still be added; nothing if there are too many words. -/
def spareAfter (spare : Nat) : List Nat → Option Nat
  | [] => some spare
  | count :: rest => if 2 * spare < count then none else spareAfter (2 * spare - count) rest

def spare? (code : Canonical) : Option Nat := spareAfter 1 code.counts

def isComplete (code : Canonical) : Bool := code.spare? = some 0

def isSingle (code : Canonical) : Bool := code.symbols.size = 1

/-- Walks along the bits from place `depth` on: `word` is the number read so far, `first` the first
word of its length, and `index` the number of shorter words. Gives the symbol and how many bits its
word has. -/
def walk (symbols : Array Nat) (bit : Nat → Nat) :
    List Nat → (depth word first index : Nat) → Option (Nat × Nat)
  | [], _, _, _, _ => none
  | count :: rest, depth, word, first, index =>
    let word := 2 * word + bit depth
    if word < first + count then
      (symbols[index + (word - first)]?).map fun symbol => (symbol, depth + 1)
    else walk symbols bit rest (depth + 1) word (2 * (first + count)) (index + count)

def first? (code : Canonical) (bit : Nat → Nat) : Option (Nat × Nat) :=
  walk code.symbols bit code.counts 0 0 0 0

end Canonical

end Depot.Codes
