import Gutter.Shell.Format

/-!
# Numbers of double precision

How a script of rules reads numbers in texts and writes them. A number is taken apart exactly, so what
is written of it depends on nothing else.
-/

namespace Gutter.Shell.Rules

namespace Number

def parts? (x : Float) : Option Binary64 :=
  let bits := x.toBits.toNat
  let exponent : Nat := bits / Nat.pow 2 52 % Nat.pow 2 11
  let fraction := bits % Nat.pow 2 52
  let isNegative : Bool := Nat.pow 2 63 ≤ bits
  if exponent = 2047 then none
  else if exponent = 0 then some ⟨isNegative, fraction, Binary64.minExponent⟩
  else some ⟨isNegative, fraction + Nat.pow 2 52, (exponent : Int) - 1075⟩

def ofParts (x : Binary64) : Float :=
  let size :=
    if x.significand < Nat.pow 2 52 then x.significand
    else (x.exponent + 1075).toNat * Nat.pow 2 52 + (x.significand - Nat.pow 2 52)
  Float.ofBits (UInt64.ofNat (size + if x.negative then Nat.pow 2 63 else 0))

def infinity : Float := 1.0 / 0.0

def nan : Float := 0.0 / 0.0

def toReal (x : Float) : Format.Real :=
  match parts? x with
  | some b => ⟨b.negative, .ok b.quotient⟩
  | none => if x.isNaN then ⟨true, .error "nan"⟩ else ⟨x < 0.0, .error "inf"⟩

def ofReal (r : Format.Real) : Float :=
  let size := match r.size with
    | .error name => if name = "nan" then nan else infinity
    | .ok (num, den) => ((Binary64.ofQuotient? num den).map ofParts).getD infinity
  if r.isNegative then -size else size

/-- The number at the start of a text, behind blanks; zero if there is none. -/
def ofText (s : String) : Float :=
  let cs := s.toList
  if cs.length ≤ 15 && cs.all Char.isDigit then Float.ofNat (Shell.Number.ofDigits 10 cs)
  else
    match cs.dropWhile Shell.Number.isBlank with
    | [] | '\'' :: _ | '"' :: _ => 0.0
    | cs => ofReal (Format.real false cs).1

def truncate? (x : Float) : Option Int :=
  (parts? x).map fun b =>
    let (num, den) := b.quotient
    if b.negative then -((num / den : Nat) : Int) else (num / den : Nat)

def ofInt (n : Int) : Float :=
  let size := ((Binary64.ofNat? n.natAbs).map ofParts).getD infinity
  if n < 0 then -size else size

def integer? (x : Float) : Option Int :=
  match parts? x with
  | none => none
  | some b =>
    let (num, den) := b.quotient
    if num % den ≠ 0 then none
    else some (if b.negative then -((num / den : Nat) : Int) else (num / den : Nat))

def key? (x : Float) : Option Int :=
  (integer? x).filter fun n => -Nat.pow 2 63 ≤ n && n < Nat.pow 2 63

def wholeText? (x : Float) : Option String :=
  match integer? x with
  | some n =>
    if -Nat.pow 2 63 ≤ n && n ≤ UInt64.size then some (toString (min n (UInt64.size - 1))) else none
  | none => none

/-- The whole part of a number, cut to what an integer of 64 bits can be, in the last 32 bits of which
the answer is. -/
def toInt32 (x : Float) : Int :=
  let most : Int := Nat.pow 2 63 - 1
  let n := match truncate? x with
    | some n => max (-most) (min n most)
    | none => if 0.0 < x then most else if x < 0.0 then -most else 0
  n.bmod UInt32.size

/-- What is left when a number is divided by another one a whole number of times. It has the sign of
the first one. -/
def remainder (x y : Float) : Float :=
  match parts? x, parts? y with
  | some a, some b =>
    if b.isZero then nan
    else
      let e := min a.exponent b.exponent
      let n := a.significand * Nat.pow 2 (a.exponent - e).toNat
      let d := b.significand * Nat.pow 2 (b.exponent - e).toNat
      let r := n % d
      let (num, den) := if 0 ≤ e then (r * Nat.pow 2 e.toNat, 1) else (r, Nat.pow 2 (-e).toNat)
      let size := ((Binary64.ofQuotient? num den).map ofParts).getD 0.0
      if a.negative then -size else size
  | some _, none => if y.isNaN then nan else x
  | none, _ => nan

def signed (x : Float) : Int :=
  let most : Int := Nat.pow 2 63 - 1
  match truncate? x with
  | some n => max (-most) (min n most)
  | none => if x.isNaN then -Nat.pow 2 63 else if x < 0.0 then -most else most

def unsigned (x : Float) : Int :=
  match truncate? x with
  | some n =>
    if n ≤ -UInt64.size then 1
    else if n < -Nat.pow 2 63 then Nat.pow 2 63
    else if n < 0 then n + UInt64.size
    else min n (UInt64.size - 1)
  | none => if x.isNaN then Nat.pow 2 63 else if x < 0.0 then 1 else UInt64.size - 1

end Number

end Gutter.Shell.Rules
