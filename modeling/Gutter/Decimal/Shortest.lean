import Gutter.Decimal.Binary64

/-!
# The shortest decimal text of a number

A number is written with the fewest decimal digits that read back as the same number, and with the
nearest of those.
-/

namespace Gutter.Decimal

/-- The decimal number `digits * 10 ^ exponent`. -/
structure Scientific where
  digits : Nat
  exponent : Int
  deriving DecidableEq, Repr

def scaled (a : Nat) (e k : Int) : Nat × Nat :=
  let num :=
    a * (if 0 ≤ e then Nat.pow 2 e.toNat else 1) * (if k < 0 then Nat.pow 10 (-k).toNat else 1)
  let den := (if e < 0 then Nat.pow 2 (-e).toNat else 1) * (if 0 ≤ k then Nat.pow 10 k.toNat else 1)
  (num, den)

/-- Whether `d * 10 ^ k` is read as `m * 2 ^ e`: whether it lies between the midpoints to the
neighbours, which belong to `m` when `m` is even. -/
def readsAs (m : Nat) (e : Int) (d : Nat) (k : Int) : Bool :=
  let halfStepBelow := if m = Nat.pow 2 52 && Binary64.minExponent < e then 1 else 2
  let low := scaled (4 * m - halfStepBelow) (e - 2) k
  let high := scaled (4 * m + 2) (e - 2) k
  let above := low.1 < d * low.2 || (m % 2 = 0 && low.1 = d * low.2)
  let below := d * high.2 < high.1 || (m % 2 = 0 && d * high.2 = high.1)
  above && below

/-- The decimal on the grid of `10 ^ k` that is read as `m * 2 ^ e`, the nearer one of two. -/
def onGrid? (m : Nat) (e k : Int) : Option Nat :=
  let (num, den) := scaled m e k
  let d := num / den
  let down := readsAs m e d k
  let up := readsAs m e (d + 1) k
  match down, up with
  | true, true => some (if 2 * (num % den) < den || (2 * (num % den) = den && d % 2 = 0) then d
      else d + 1)
  | true, false => some d
  | false, true => some (d + 1)
  | false, false => none

/-- The first grid that has a decimal read as `m * 2 ^ e`, from `10 ^ k` down to finer ones. -/
def shortestFrom (m : Nat) (e : Int) : (steps : Nat) → Int → Scientific
  | 0, k => ⟨(onGrid? m e k).getD 0, k⟩
  | steps + 1, k =>
    match onGrid? m e k with
    | some d => if d = 0 then shortestFrom m e steps (k - 1) else ⟨d, k⟩
    | none => shortestFrom m e steps (k - 1)

def trimZeros : (steps : Nat) → Scientific → Scientific
  | steps + 1, x => if x.digits ≠ 0 && x.digits % 10 = 0 then
      trimZeros steps ⟨x.digits / 10, x.exponent + 1⟩ else x
  | 0, x => x

def shortest (m : Nat) (e : Int) : Scientific :=
  let (num, den) := scaled m e 0
  let top : Int := if den ≤ num then ((Nat.toDigits 10 (num / den)).length : Int) else
    1 - ((Nat.toDigits 10 (den / num)).length : Int)
  trimZeros 20 (shortestFrom m e 20 top)

/-- How numbers are written: the exponents of the first digit from and to which no power of ten is
needed. -/
structure Format where
  positionalFrom : Int
  positionalTo : Int

/-- The text of a number above zero from its digits and the exponent of the first. -/
def Format.write (f : Format) (digits : List Char) (exponent : Int) : String :=
  let n : Int := digits.length
  if f.positionalFrom ≤ exponent && exponent ≤ f.positionalTo then
    if exponent < 0 then
      "0." ++ String.ofList (List.replicate (-exponent - 1).toNat '0' ++ digits)
    else if n ≤ exponent + 1 then
      String.ofList (digits ++ List.replicate (exponent + 1 - n).toNat '0') ++ ".0"
    else
      String.ofList (digits.take (exponent + 1).toNat) ++ "." ++
        String.ofList (digits.drop (exponent + 1).toNat)
  else
    let head := String.ofList (digits.take 1)
    let tail := String.ofList (digits.drop 1)
    let sign := if exponent < 0 then "-" else "+"
    head ++ (if tail = "" then "" else "." ++ tail) ++ "e" ++ sign ++ toString exponent.natAbs

/-- Numbers below `10 ^ 16` and not below `10 ^ (-5)` are written without an exponent and with at
least one place after the point. -/
def plain : Format := ⟨-5, 15⟩

/-- The text of a number. -/
def Format.text (f : Format) (x : Binary64) : String :=
  let sign := if x.negative then "-" else ""
  if x.isZero then sign ++ "0.0"
  else
    let s := shortest x.significand x.exponent
    let digits := Nat.toDigits 10 s.digits
    sign ++ f.write digits (s.exponent + digits.length - 1)

end Gutter.Decimal
