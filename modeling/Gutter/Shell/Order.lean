import Gutter.Shell.Format
import Gutter.Text.Octets

/-!
# Orders of texts

Ways to compare texts: by their bytes, by the number at their front, by months and by versions.
-/

namespace Gutter.Shell.Order

abbrev Comparison := List UInt8 → List UInt8 → Ordering

def isDigit (b : UInt8) : Bool := 0x30 ≤ b && b ≤ 0x39

def isAlpha (b : UInt8) : Bool := (0x41 ≤ b && b ≤ 0x5A) || (0x61 ≤ b && b ≤ 0x7A)

def isBlank (b : UInt8) : Bool := b = 0x20 || b = 0x09 || b = 0x0A

def upper (b : UInt8) : UInt8 := if 0x61 ≤ b && b ≤ 0x7A then b - 0x20 else b

def bytes : Comparison
  | [], [] => .eq
  | [], _ :: _ => .lt
  | _ :: _, [] => .gt
  | a :: as, b :: bs => if a < b then .lt else if b < a then .gt else bytes as bs

/-! ## Numbers -/

/-- A decimal number: whether it is negative, the digits before the point without zeros at the
start, and the ones behind it without zeros at the end. Zero is not negative. -/
structure Decimal where
  isNegative : Bool
  whole : List UInt8
  fraction : List UInt8

namespace Decimal

/-- The number at the front of a text, which may have none, and what follows it. -/
def lead (text : List UInt8) : Decimal × List UInt8 :=
  let (isNegative, body) := match text with
    | 0x2D :: body => (true, body)
    | body => (false, body)
  let whole := body.takeWhile isDigit
  let rest := body.drop whole.length
  let (fraction, rest) := match rest with
    | 0x2E :: more => (more.takeWhile isDigit, more.dropWhile isDigit)
    | rest => ([], rest)
  let whole := whole.dropWhile (· = 0x30)
  let fraction := (fraction.reverse.dropWhile (· = 0x30)).reverse
  let isZero := whole.isEmpty && fraction.isEmpty
  (⟨isNegative && !isZero, whole, fraction⟩, rest)

def isZero (x : Decimal) : Bool := x.whole.isEmpty && x.fraction.isEmpty

def compareSize (x y : Decimal) : Ordering :=
  (compare x.whole.length y.whole.length).then
    ((bytes x.whole y.whole).then (bytes x.fraction y.fraction))

def compare (x y : Decimal) : Ordering :=
  match x.isNegative, y.isNegative with
  | true, false => .lt
  | false, true => .gt
  | false, false => compareSize x y
  | true, true => compareSize y x

end Decimal

def numbers : Comparison := fun a b =>
  (Decimal.lead (a.dropWhile isBlank)).1.compare (Decimal.lead (b.dropWhile isBlank)).1

def unitOf (text : List UInt8) : Int :=
  let (x, rest) := Decimal.lead text
  let units : List (List Char) := [['K', 'k'], ['M'], ['G'], ['T'], ['P'], ['E'], ['Z'], ['Y'],
    ['R'], ['Q']]
  let power := (rest.head?.bind fun b =>
    units.findIdx? fun unit => Char.ofNat b.toNat ∈ unit).elim 0 (· + 1)
  if x.isZero then 0 else if x.isNegative then -power else power

/-- Compares sizes with units: first the units and then the numbers. -/
def sizes : Comparison := fun a b =>
  let a := a.dropWhile isBlank
  let b := b.dropWhile isBlank
  (compare (unitOf a) (unitOf b)).then (numbers a b)

/-- A number of any form. -/
inductive Quantity where
  | missing
  | notNumber
  | negativeInfinity
  | finite (num : Int) (den : Nat)
  | infinity

namespace Quantity

def powerLimit : Int := 5000

/-- The quantity at the front of a text. -/
def lead (text : String) : Quantity :=
  let cs := text.toList.dropWhile Number.isBlank
  let (isNegative, body) := match cs with
    | '-' :: cs => (true, cs)
    | '+' :: cs => (false, cs)
    | cs => (false, cs)
  let low := body.map Char.toLower
  let hasHex := match low with
    | '0' :: 'x' :: c :: d :: _ =>
      (Number.digit? c).isSome || (c = '.' && (Number.digit? d).isSome)
    | '0' :: 'x' :: [c] => (Number.digit? c).isSome
    | _ => false
  if low.take 3 = ['i', 'n', 'f'] then if isNegative then .negativeInfinity else .infinity
  else if low.take 3 = ['n', 'a', 'n'] then .notNumber
  else
    let base := if hasHex then 16 else 10
    let body := if hasHex then body.drop 2 else body
    let (ds, places, n) := Format.readDigits base body
    if ds.isEmpty then .missing
    else
      let (power, _) := Format.readPower (if hasHex then ['p', 'P'] else ['e', 'E']) (body.drop n)
      let value : Int := Number.ofDigits base ds
      let value := if isNegative then -value else value
      let (radix, power) : Nat × Int := if hasHex then (2, power - 4 * places) else (10, power - places)
      if value = 0 || power < -4 * powerLimit - ds.length then .finite 0 1
      else if 4 * powerLimit < power then if isNegative then .negativeInfinity else .infinity
      else .finite (value * Nat.pow radix power.toNat) (Nat.pow radix (-power).toNat)

def rank : Quantity → Nat
  | .missing => 0
  | .notNumber => 1
  | .negativeInfinity => 2
  | .finite .. => 3
  | .infinity => 4

end Quantity

def quantities : Comparison := fun a b =>
  match Quantity.lead (Text.Octets.ofBytes a), Quantity.lead (Text.Octets.ofBytes b) with
  | .finite m k, .finite n l => compare (m * l) (n * k)
  | x, y => compare x.rank y.rank

/-! ## Months -/

/-- The month at the front of a text, behind blanks; zero if there is none. -/
def monthOf (text : List UInt8) : Nat :=
  let names := ["JAN", "FEB", "MAR", "APR", "MAY", "JUN", "JUL", "AUG", "SEP", "OCT", "NOV", "DEC"]
  let name := Text.Octets.ofBytes (((text.dropWhile isBlank).take 3).map upper)
  (names.findIdx? (· = name)).elim 0 (· + 1)

def months : Comparison := fun a b => compare (monthOf a) (monthOf b)

/-! ## Versions -/

/-- Where a byte stands among those between the numbers of versions; the end comes before all but
a tilde. -/
def versionRank : Option UInt8 → Int
  | none => -1
  | some b =>
    if isDigit b then 0
    else if isAlpha b then b.toNat
    else if b = 0x7E then -2
    else b.toNat + 256

/-- Compares texts part by part: what stands between numbers, and the numbers. -/
def versionParts : (fuel : Nat) → Comparison
  | 0, _, _ => .eq
  | _, [], [] => .eq
  | fuel + 1, a, b =>
    let isOpen (x : List UInt8) : Bool := x.head?.any fun c => !isDigit c
    if isOpen a || isOpen b then
      let m := versionRank a.head?
      let n := versionRank b.head?
      if m = n then versionParts fuel a.tail b.tail else compare m n
    else
      let isZero (c : UInt8) : Bool := c = 0x30
      let a := a.dropWhile isZero
      let b := b.dropWhile isZero
      let m := a.takeWhile isDigit
      let n := b.takeWhile isDigit
      ((compare m.length n.length).then (bytes m n)).then
        (versionParts fuel (a.drop m.length) (b.drop n.length))

/-- The text before the endings of a file name, such as `.tar.gz`. The first character is no part of
an ending. -/
def withoutEndings (text : List UInt8) : List UInt8 :=
  let isLetter (b : UInt8) : Bool := isAlpha b || b = 0x7E
  let isEnding (part : List UInt8) : Bool :=
    part.head?.any isLetter && part.all fun b => isLetter b || isDigit b
  match text with
  | [] => []
  | b :: bs =>
    let parts := bs.splitOn 0x2E
    let endings := (parts.tail.reverse.takeWhile isEnding).length
    b :: (bs.take
      (bs.length - Number.total ((parts.drop (parts.length - endings)).map (·.length + 1))))

def versions : Comparison := fun a b =>
  let whole (a b : List UInt8) : Ordering := versionParts (a.length + b.length + 1) a b
  let rank (x : List UInt8) : Nat :=
    if x.isEmpty then 0 else if x = [0x2E] then 1 else if x = [0x2E, 0x2E] then 2
    else if x.head? = some 0x2E then 3 else 4
  (compare (rank a) (rank b)).then
    ((whole (withoutEndings a) (withoutEndings b)).then (whole a b))

end Gutter.Shell.Order
