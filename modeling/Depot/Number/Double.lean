import Depot.Number.Power

/-!
Positive numbers kept to 53 significant bits, the way double words hold them. A number is
`mantissa / twoTo shift` in lowest exact form of its bits; a result that needs more bits goes to the
nearest number that fits, a tie to the even mantissa. Everything is computed on natural numbers, so
that the laws of rounding can be stated and proved.
-/

namespace Depot.Number

/-- The nearest whole number to `num / den`, a tie to the even one. -/
def divEven (num den : Nat) : Nat :=
  let q := num / den
  let r := num % den
  if 2 * r < den then q
  else if den < 2 * r then q + 1
  else if q % 2 = 0 then q else q + 1

/-- The nearest whole number to `num / den`, a tie to the larger one. -/
def divUp (num den : Nat) : Nat := (2 * num + den) / (2 * den)

def keep53 (n : Nat) : Nat :=
  let bits := n.log2 + 1
  if bits ≤ 53 then n else divEven n (twoTo (bits - 53)) * twoTo (bits - 53)

structure Double where
  mantissa : Nat
  shift : Nat
deriving DecidableEq, Repr

namespace Double

/-- The quotient of two whole numbers kept to 53 bits. Quotients here are of picture sides, so they
stay far from the limits of the exponent. -/
def quotient (num den : Nat) : Double :=
  if num = 0 then ⟨0, 0⟩
  else
    let wide := num.log2 + 1
    let deep := den.log2 + 1
    -- scaled so that the quotient has at least 54 bits before it is rounded
    let shift := if num * twoTo (53 + deep - wide) / den < twoTo 53
      then 53 + deep - wide else 52 + deep - wide
    let m := divEven (num * twoTo shift) den
    ⟨keep53 m, shift⟩

def le (a b : Double) : Bool := a.mantissa * twoTo b.shift ≤ b.mantissa * twoTo a.shift

def min (a b : Double) : Double := if a.le b then a else b

def max (a b : Double) : Double := if a.le b then b else a

/-- The product with a whole number, kept to 53 bits, then taken to the nearest whole number, a tie
away from zero. -/
def scale (a : Double) (length : Nat) : Nat :=
  divUp (keep53 (a.mantissa * length)) (twoTo a.shift)

end Double

def hundredths (n : Nat) : String :=
  let cents := n % 100
  String.ofList (Nat.toDigits 10 (n / 100)) ++ "." ++ (if cents < 10 then "0" else "") ++
    String.ofList (Nat.toDigits 10 cents)

/-- A count of bytes in units of 2 ^ 20, with two decimal places; a tie goes to the even digit. -/
def megabytes (bytes : Nat) : String := hundredths (divEven (keep53 bytes * 100) 1048576)

/-- As `megabytes`, but the hundredfold is kept to 53 bits first and a tie goes up. -/
def megabytesUp (bytes : Nat) : String := hundredths (divUp (keep53 (keep53 bytes * 100)) 1048576)

end Depot.Number
