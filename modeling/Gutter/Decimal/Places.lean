import Gutter.Decimal.Binary64

/-!
# Decimal numbers with a given number of places

The size of a number is rounded once, from its exact value, to the nearest decimal number with the
places that are asked for, and to the even one of two equally near.
-/

namespace Gutter.Decimal

/-- How the digits of a number are laid out: with a point, with a power of ten, or in the shorter
one of these ways. -/
inductive Layout where
  | fixed
  | scientific
  | general
  deriving DecidableEq, Repr

namespace Layout

def digits (least n : Nat) : List Char :=
  let ds := Nat.toDigits 10 n
  List.replicate (least - ds.length) '0' ++ ds

/-- A number of `10 ^ (-places)`, with a point before the last `places` digits; `keepsPoint` says
that there is a point even before none. -/
def pointed (keepsPoint : Bool) (places n : Nat) : List Char :=
  let ds := digits (places + 1) n
  let whole := ds.take (ds.length - places)
  if places = 0 && !keepsPoint then whole else whole ++ '.' :: ds.drop (ds.length - places)

/-- The power of ten of the first digit of `num / den`; zero for zero. -/
def magnitude (num den : Nat) : Int :=
  if num = 0 then 0
  else if den ≤ num then (Nat.toDigits 10 (num / den)).length - 1
  else
    let k := (Nat.toDigits 10 (den / num)).length - 1
    if den ≤ num * Nat.pow 10 k then -k else -(k + 1)

/-- The digits of `num / den`, one before the point and `places` behind it, and the power of ten. -/
def normalize (places num den : Nat) : Nat × Int :=
  let e := magnitude num den
  let k : Int := places - e
  let n := if 0 ≤ k then Binary64.roundQuotient (num * Nat.pow 10 k.toNat) den
    else Binary64.roundQuotient num (den * Nat.pow 10 (-k).toNat)
  if n = Nat.pow 10 (places + 1) then (Nat.pow 10 places, e + 1) else (n, e)

def power (e : Int) : List Char :=
  'e' :: (if e < 0 then '-' else '+') :: digits 2 e.natAbs

/-- A text without the zeros behind its point, and without a point that is then the last. -/
def dropZeros (cs : List Char) : List Char :=
  if '.' ∈ cs then
    match (cs.reverse.dropWhile (· = '0')) with
    | '.' :: rest => rest.reverse
    | rest => rest.reverse
  else cs

/-- The text of `num / den` with some places. -/
def write (layout : Layout) (keepsPoint : Bool) (places num den : Nat) : List Char :=
  match layout with
  | .fixed => pointed keepsPoint places (Binary64.roundQuotient (num * Nat.pow 10 places) den)
  | .scientific =>
    let (n, e) := normalize places num den
    pointed keepsPoint places n ++ power e
  | .general =>
    let significant := max places 1
    let (n, e) := normalize (significant - 1) num den
    let strip (cs : List Char) : List Char := if keepsPoint then cs else dropZeros cs
    if -4 ≤ e && e < significant then
      let places := (significant - 1 - e).toNat
      strip (pointed keepsPoint places (Binary64.roundQuotient (num * Nat.pow 10 places) den))
    else strip (pointed keepsPoint (significant - 1) n) ++ power e

end Layout

end Gutter.Decimal
