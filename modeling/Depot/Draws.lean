import Depot.Text.Literal

/-!
Sources of random numbers: a list of numbers settled beforehand, or a generator started from a seed.
-/

namespace Depot

inductive Draws
  /-- Gives the listed numbers in turn, then zeros. -/
  | scripted (values : List Nat)
  | seeded (state : UInt64)
deriving Repr

namespace Draws

def mix (state : UInt64) : UInt64 :=
  let a := (state ^^^ (state >>> 30)) * 0xBF58476D1CE4E5B9
  let b := (a ^^^ (a >>> 27)) * 0x94D049BB133111EB
  b ^^^ (b >>> 31)

def between (low high : Nat) : Draws → Nat × Draws
  | scripted [] => (0, scripted [])
  | scripted (value :: rest) => (value, scripted rest)
  | seeded state =>
    let state := state + 0x9E3779B97F4A7C15
    (low + (mix state).toNat % (high - low + 1), seeded state)

def take (low high : Nat) : Nat → Draws → List Nat × Draws
  | 0, draws => ([], draws)
  | count + 1, draws =>
    let (value, draws) := draws.between low high
    let (values, draws) := take low high count draws
    (value :: values, draws)

end Draws

end Depot
