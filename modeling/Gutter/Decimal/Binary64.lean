/-!
# Binary numbers of double precision

A finite double-precision number as an integer times a power of two. Every operation computes the
exact result as a quotient of natural numbers and rounds it once, to the nearest number that double
precision has and to the even one of two equally near.
-/

namespace Gutter

/-- The number `significand * 2 ^ exponent`, with a sign that zero has too. The significand is
below `2 ^ 53`, and the exponent is the least possible one, but not below `-1074`. -/
structure Binary64 where
  negative : Bool
  significand : Nat
  exponent : Int
  deriving DecidableEq, Repr

namespace Binary64

def minExponent : Int := -1074

def maxExponent : Int := 971

def zero : Binary64 := ⟨false, 0, minExponent⟩

def isZero (x : Binary64) : Bool := x.significand == 0

/-- A quotient rounded to the nearest natural number, to the even one of two equally near. -/
def roundQuotient (num den : Nat) : Nat :=
  let q := num / den
  let r := num % den
  if 2 * r < den then q
  else if den < 2 * r then q + 1
  else if q % 2 = 0 then q else q + 1

def inUnits (num den : Nat) (e : Int) : Nat × Nat :=
  if 0 ≤ e then (num, den * Nat.pow 2 e.toNat) else (num * Nat.pow 2 (-e).toNat, den)

def unitExponent (num den : Nat) : Int :=
  let guess : Int := (num.log2 : Int) - (den.log2 : Int) - 52
  let (n, d) := inUnits num den guess
  let fitted := if n / d < Nat.pow 2 52 then guess - 1 else guess
  max fitted minExponent

/-- The number nearest to `num / den`, unless that is too large for double precision. -/
def ofQuotient? (num den : Nat) : Option Binary64 :=
  if num = 0 then some zero
  else
    let e := unitExponent num den
    let (n, d) := inUnits num den e
    let m := roundQuotient n d
    let (m, e) := if m = Nat.pow 2 53 then (Nat.pow 2 52, e + 1) else (m, e)
    if maxExponent < e then none else some ⟨false, m, e⟩

/-- The number nearest to `n * 10 ^ k`, unless that is too large for double precision. A size beyond
what double precision can tell from zero or hold is not computed. -/
def nearest? (n : Nat) (k : Int) : Option Binary64 :=
  let magnitude : Int := (Nat.toDigits 10 n).length + k
  if n = 0 || magnitude < -330 then some zero
  else if 310 < magnitude then none
  else if 0 ≤ k then ofQuotient? (n * Nat.pow 10 k.toNat) 1
  else ofQuotient? n (Nat.pow 10 (-k).toNat)

def quotient (x : Binary64) : Nat × Nat :=
  if 0 ≤ x.exponent then (x.significand * Nat.pow 2 x.exponent.toNat, 1)
  else (x.significand, Nat.pow 2 (-x.exponent).toNat)

def ofNat? (n : Nat) : Option Binary64 := ofQuotient? n 1

def mul? (x y : Binary64) : Option Binary64 :=
  let (a, b) := x.quotient
  let (c, d) := y.quotient
  ofQuotient? (a * c) (b * d)

def div? (x y : Binary64) : Option Binary64 :=
  let (a, b) := x.quotient
  let (c, d) := y.quotient
  ofQuotient? (a * d) (b * c)

def pow10? (k : Nat) : Option Binary64 := ofNat? (Nat.pow 10 k)

/-- A number times `10 ^ k`, where each step is rounded: a factor above `10 ^ 308` is too large, and
a divisor above it is applied in parts for as long as something is left to divide. -/
def scale? : (steps : Nat) → Binary64 → Int → Option Binary64
  | 0, _, _ => none
  | steps + 1, x, k => do
    if k.natAbs ≤ 308 then
      let p ← pow10? k.natAbs
      if 0 ≤ k then x.mul? p else x.div? p
    else if x.isZero then some x
    else if 0 ≤ k then none
    else
      let y ← x.div? (← pow10? 308)
      scale? steps y (k + 308)

/-- The number that `n * 10 ^ k` is read as, unless it is too large: `n` is rounded, and so is
each step of the scaling. Four steps suffice, for three divisions leave nothing of any `n` below
`2 ^ 64`. -/
def ofDecimal? (negative : Bool) (n : Nat) (k : Int) : Option Binary64 := do
  let x ← ofNat? n
  let y ← scale? 4 x k
  return { y with negative }

end Binary64

end Gutter
