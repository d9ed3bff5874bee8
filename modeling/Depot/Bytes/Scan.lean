/-!
Reading a content: a scan stands at a place in it, and each read moves the place on or fails. Words
of several bytes come in two orders, with the highest or with the lowest byte first.
-/

namespace Depot.Bytes

/-- The byte at a place, or zero behind the end. -/
def byteAt (bytes : ByteArray) (place : Nat) : UInt8 :=
  if inside : place < bytes.size then bytes[place] else 0

def highFirst (bytes : ByteArray) (place : Nat) : Nat → Nat
  | 0 => 0
  | count + 1 =>
    highFirst bytes place count * 256 + (byteAt bytes (place + count)).toNat

def lowFirst (bytes : ByteArray) (place : Nat) : Nat → Nat
  | 0 => 0
  | count + 1 => (byteAt bytes place).toNat + 256 * lowFirst bytes (place + 1) count

def hasAt (bytes : ByteArray) (place : Nat) : List UInt8 → Bool
  | [] => true
  | b :: rest => place < bytes.size && byteAt bytes place == b && hasAt bytes (place + 1) rest

/-- A read that starts at some place of a content and ends at another. -/
abbrev Scan (α : Type) := ReaderT ByteArray (StateT Nat Option) α

namespace Scan

def ofContent (scan : Scan α) (bytes : ByteArray) : Option α := ((scan.run bytes).run 0).map (·.1)

def place : Scan Nat := get

def left : Scan Nat := do return (← read).size - (← get)

def goTo (target : Nat) : Scan Unit := set target

def need (condition : Bool) : Scan Unit := if condition then pure () else failure

def given : Option α → Scan α
  | some a => pure a
  | none => failure

def pass (count : Nat) : Scan Nat := do
  let here ← place
  need (here + count ≤ (← read).size)
  goTo (here + count)
  return here

def take (count : Nat) : Scan ByteArray := do
  let here ← pass count
  return (← read).extract here (here + count)

def byte : Scan Nat := do
  let here ← pass 1
  return (byteAt (← read) here).toNat

def high (count : Nat) : Scan Nat := do
  let here ← pass count
  return highFirst (← read) here count

def low (count : Nat) : Scan Nat := do
  let here ← pass count
  return lowFirst (← read) here count

def expect (wanted : List UInt8) : Scan Unit := do
  let here ← pass wanted.length
  need (hasAt (← read) here wanted)

def times (scan : Scan α) : Nat → Scan (List α)
  | 0 => pure []
  | count + 1 => do
    let first ← scan
    return first :: (← times scan count)

end Scan

end Depot.Bytes
