import Depot.Bytes.Scan
import Depot.Codes.Canonical
import Depot.Number.Power

/-!
Reading a content bit by bit, from the lowest bit of every byte on. The state is a place in bits.
-/

namespace Depot.Codes

open Bytes (byteAt lowFirst)

/-- A read whose place is counted in bits. -/
abbrev BitScan (α : Type) := ReaderT ByteArray (StateT Nat Option) α

namespace BitScan

def ofContent (scan : BitScan α) (bytes : ByteArray) : Option α :=
  ((scan.run bytes).run 0).map (·.1)

def bitAt (bytes : ByteArray) (place : Nat) : Nat :=
  ((byteAt bytes (place / 8)).toNat >>> (place % 8)) % 2

def pass (count : Nat) : BitScan Nat := do
  let here ← get
  if 8 * (← read).size < here + count then failure
  set (here + count)
  return here

def bits (count : Nat) : BitScan Nat := do
  let here ← pass count
  return (lowFirst (← read) (here / 8) 4 >>> (here % 8)) % twoTo count

def flag : BitScan Bool := do return (← bits 1) = 1

def symbol (code : Canonical) : BitScan Nat := do
  let bytes ← read
  let here ← get
  match code.first? fun i => bitAt bytes (here + i) with
  | none => failure
  | some (symbol, used) =>
    let _ ← pass used
    return symbol

def need (condition : Bool) : BitScan Unit := if condition then pure () else failure

def align : BitScan Unit := modify fun here => (here + 7) / 8 * 8

end BitScan

end Depot.Codes
