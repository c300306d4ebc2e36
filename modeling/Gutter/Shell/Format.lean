import Gutter.Decimal.Places
import Gutter.Shell.Number

/-!
# Formatted output

What `printf` and `echo` make of a format and some words.
-/

namespace Gutter.Shell.Format

/-! ## Escapes -/

def isOctal (c : Char) : Bool := '0' ≤ c && c ≤ '7'

def ofOctal (ds : List Char) : Char := Char.ofNat (Number.ofDigits 8 ds % 256)

/-- What a letter after a backslash stands for. -/
def escaped? : Char → Option Char
  | 'a' => some '\x07'
  | 'b' => some '\x08'
  | 'e' => some '\x1B'
  | 'f' => some '\x0C'
  | 'n' => some '\n'
  | 'r' => some '\r'
  | 't' => some '\t'
  | 'v' => some '\x0B'
  | '\\' => some '\\'
  | _ => none

/-- The character that an escape stands for, and how many characters the escape has after its
backslash. -/
def escape (cs : List Char) : Char × Nat :=
  match (cs.take 3).takeWhile isOctal, cs with
  | [], c :: _ =>
    match escaped? c with
    | some x => (x, 1)
    | none => ('\\', 0)
  | [], [] => ('\\', 0)
  | ds, _ => (ofOctal ds, ds.length)

def escapeZero (cs : List Char) : Char × Nat :=
  if cs.head? = some '0' then
    let ds := (cs.tail.take 3).takeWhile isOctal
    (ofOctal ds, ds.length + 1)
  else escape cs

def escapeHex (cs : List Char) : Char × Nat :=
  match cs with
  | 'x' :: rest =>
    let ds := (rest.take 2).takeWhile fun c => (Number.digit? c).isSome
    if ds.isEmpty then ('\\', 0) else (Char.ofNat (Number.ofDigits 16 ds), ds.length + 1)
  | cs => escapeZero cs

/-- A text in which escapes are replaced, as `echo` does it: backslash `c` ends all output, which
the answer also tells. -/
def unescape (hasHex : Bool) : (fuel : Nat) → List Char → List Char × Bool
  | 0, cs => (cs, false)
  | fuel + 1, cs =>
    let plain := cs.takeWhile (· ≠ '\\')
    match cs.drop plain.length with
    | [] => (cs, false)
    | _ :: cs =>
      if cs.head? = some 'c' then (plain, true)
      else
        let (c, n) := if hasHex then escapeHex cs else escapeZero cs
        let (text, stop) := unescape hasHex fuel (cs.drop n)
        (plain ++ c :: text, stop)

/-! ## Formats -/

/-- A number in a directive, which may be left to the next word. -/
inductive Amount where
  | known (n : Nat)
  | word

/-- How a value is written. -/
structure Directive where
  left : Bool := false
  zero : Bool := false
  plus : Bool := false
  blank : Bool := false
  alternate : Bool := false
  width : Amount := .known 0
  precision : Option Amount := none
  conversion : Char := 's'

/-- A part of a format. -/
inductive Item where
  | literal (text : List Char)
  | value (d : Directive)
  | malformed (text : List Char)

def readFlags (d : Directive) : List Char → Directive × List Char
  | '-' :: cs => readFlags { d with left := true } cs
  | '0' :: cs => readFlags { d with zero := true } cs
  | '+' :: cs => readFlags { d with plus := true } cs
  | ' ' :: cs => readFlags { d with blank := true } cs
  | '#' :: cs => readFlags { d with alternate := true } cs
  | cs => (d, cs)

def readAmount : List Char → Amount × List Char
  | '*' :: cs => (.word, cs)
  | cs =>
    let ds := cs.takeWhile Char.isDigit
    (.known (Number.ofDigits 10 ds), cs.drop ds.length)

def conversions : List Char :=
  ['s', 'b', 'c', 'd', 'i', 'o', 'u', 'x', 'X', 'e', 'E', 'f', 'F', 'g', 'G']

/-- Reads a directive after its percent sign. -/
def readDirective (cs : List Char) : Item × List Char :=
  let (d, rest) := readFlags {} cs
  let (width, rest) := readAmount rest
  let (precision, rest) := match rest with
    | '.' :: rest =>
      let (n, rest) := readAmount rest
      (some n, rest)
    | rest => (none, rest)
  match rest with
  | [] => (.malformed [], [])
  | c :: after =>
    if c ∈ conversions then (.value { d with width, precision, conversion := c }, after)
    else (.malformed ('%' :: cs.take (cs.length - after.length)), after)

/-- The parts of a format. -/
def items : (fuel : Nat) → List Char → List Item
  | 0, _ => []
  | _, [] => []
  | fuel + 1, '%' :: '%' :: cs => .literal ['%'] :: items fuel cs
  | fuel + 1, '%' :: cs =>
    let (item, rest) := readDirective cs
    item :: items fuel rest
  | fuel + 1, '\\' :: cs =>
    let (c, n) := escape cs
    .literal [c] :: items fuel (cs.drop n)
  | fuel + 1, cs =>
    let plain := cs.takeWhile fun c => c ≠ '%' && c ≠ '\\'
    .literal plain :: items fuel (cs.drop plain.length)

/-! ## Values -/

def complaint (word rest : List Char) (isInRange : Bool) : Option String :=
  let about (text : String) : Option String := some (String.ofList word ++ ": " ++ text)
  if rest.isEmpty then if isInRange then none else about "Numerical result out of range"
  else about (if rest = word then "expected numeric value" else "not completely converted")

/-- The number that a word stands for, and the complaint if it is not wholly a number. A quote
stands before a character whose number is meant. -/
def number (signed : Bool) (word : List Char) : Int × Option String :=
  match word with
  | [] => (0, none)
  | '\'' :: cs | '"' :: cs => ((cs.head?.getD '\x00').toNat, none)
  | word =>
    let (n, rest) := Number.leadingInt false word
    let isInRange := if signed then Number.fits n else n.natAbs < UInt64.size
    let n := if signed then Number.clamp n else if isInRange then n else UInt64.size - 1
    (n, complaint word rest isInRange)

/-- A number with a point or a power of ten: whether it is negative, its size as a quotient unless
it is no size, and the text of that. -/
structure Real where
  isNegative : Bool
  size : Except String (Nat × Nat)

/-- The digits of a number with a point at the front of a text, without the point, how many of them
stand behind it, and how many characters they take. -/
def readDigits (base : Nat) (cs : List Char) : List Char × Nat × Nat :=
  let whole := Number.leadingDigits base cs
  match cs.drop whole.length with
  | '.' :: rest =>
    let fraction := Number.leadingDigits base rest
    if whole.isEmpty && fraction.isEmpty then ([], 0, 0)
    else (whole ++ fraction, fraction.length, whole.length + 1 + fraction.length)
  | _ => (whole, 0, whole.length)

/-- The power at the front of a text, after one of two letters, and how many characters it takes. -/
def readPower (letters : List Char) (cs : List Char) : Int × Nat :=
  match cs with
  | c :: rest =>
    if c ∈ letters then
      let (isNegative, n, ds) := match rest with
        | '-' :: ds => (true, 2, ds)
        | '+' :: ds => (false, 2, ds)
        | ds => (false, 1, ds)
      let digits := Number.leadingDigits 10 ds
      let power := min (Number.ofDigits 10 digits) 100000
      if digits.isEmpty then (0, 0)
      else (if isNegative then -(power : Int) else power, n + digits.length)
    else (0, 0)
  | [] => (0, 0)

def roundToBits (bits num den : Nat) : Nat × Nat :=
  if num = 0 then (0, 1)
  else
    let guess : Int := (num.log2 : Int) - (den.log2 : Int) - bits
    let (n, d) := Binary64.inUnits num den guess
    let e := if n / d < Nat.pow 2 bits then guess else guess + 1
    let (n, d) := Binary64.inUnits num den e
    let m := Binary64.roundQuotient n d
    if 0 ≤ e then (m * Nat.pow 2 e.toNat, 1) else (m, Nat.pow 2 (-e).toNat)

/-- The size of `n * base ^ power` as a quotient, as far as a number can be that big. A
long number has 64 binary digits, any other one 53. -/
def sizeOf? (isLong : Bool) (base n : Nat) (power : Int) : Option (Nat × Nat) :=
  let num := n * Nat.pow base power.toNat
  let den := Nat.pow base (-power).toNat
  if isLong then
    let magnitude : Int := (Nat.toDigits base n).length + power
    if n = 0 || magnitude < -5000 then some (0, 1)
    else if 4933 < magnitude then none
    else some (roundToBits 64 num den)
  else if base = 10 then (Binary64.nearest? n power).map Binary64.quotient
  else (Binary64.ofQuotient? num den).map Binary64.quotient

/-- The number with a point or a power of ten that a word stands for, and the complaint if it is not
wholly a number. -/
def real (isLong : Bool) (word : List Char) : Real × Option String :=
  match word with
  | [] => (⟨false, .ok (0, 1)⟩, none)
  | '\'' :: cs | '"' :: cs => (⟨false, .ok ((cs.head?.getD '\x00').toNat, 1)⟩, none)
  | word =>
    let (isNegative, body) := match word.dropWhile Number.isBlank with
      | '-' :: cs => (true, cs)
      | '+' :: cs => (false, cs)
      | cs => (false, cs)
    let named := ["infinity", "inf", "nan"].find? fun name =>
      (body.take name.length).map Char.toLower = name.toList
    match named with
    | some name =>
      (⟨isNegative, .error (if name = "nan" then "nan" else "inf")⟩,
        complaint word (body.drop name.length) true)
    | none =>
      let (base, skip) := match body with
        | '0' :: x :: d :: _ =>
          if (x = 'x' || x = 'X') && (Number.digit? d).isSome then (16, 2) else (10, 0)
        | _ => (10, 0)
      let (ds, places, n) := readDigits base (body.drop skip)
      let letters := if base = 16 then ['p', 'P'] else ['e', 'E']
      let (power, m) := if ds.isEmpty then (0, 0) else readPower letters (body.drop (skip + n))
      let rest := if ds.isEmpty then word else body.drop (skip + n + m)
      let size :=
        if base = 10 then sizeOf? isLong 10 (Number.ofDigits 10 ds) (power - places)
        else sizeOf? isLong 2 (Number.ofDigits 16 ds) (power - 4 * places)
      match size with
      | some x => (⟨isNegative && !ds.isEmpty, .ok x⟩, complaint word rest true)
      | none => (⟨isNegative, .error "inf"⟩, complaint word rest false)

def pad (left : Bool) (width : Nat) (cs : List Char) : List Char :=
  let gap := List.replicate (width - cs.length) ' '
  if left then cs ++ gap else gap ++ cs

def sign (d : Directive) (isNegative : Bool) : List Char :=
  if isNegative then ['-'] else if d.plus then ['+'] else if d.blank then [' '] else []

def assemble (d : Directive) (width : Nat) (zeros : Bool) (sign digits : List Char) : List Char :=
  let gap := if zeros && d.zero && !d.left then width - sign.length - digits.length else 0
  pad d.left width (sign ++ List.replicate gap '0' ++ digits)

/-- A whole number written as its directive asks. -/
def writeNumber (d : Directive) (width : Nat) (precision : Option Nat) (n : Int) : List Char :=
  let signed := d.conversion = 'd' || d.conversion = 'i'
  let size := if signed then n.natAbs else (n % UInt64.size).toNat
  let base := if d.conversion = 'o' then 8 else if d.conversion ∈ ['x', 'X'] then 16 else 10
  let digits := if size = 0 && precision = some 0 then [] else Nat.toDigits base size
  let digits := if d.conversion = 'X' then digits.map Char.toUpper else digits
  let digits := List.replicate (precision.getD 1 - digits.length) '0' ++ digits
  let digits := if d.alternate && d.conversion = 'o' && digits.head? ≠ some '0' then '0' :: digits
    else digits
  let sign := if signed then sign d (n < 0)
    else if d.alternate && base = 16 && size ≠ 0 then ['0', d.conversion] else []
  assemble d width precision.isNone sign digits

/-- A number with a point written as its directive asks. -/
def writeReal (d : Directive) (width : Nat) (precision : Option Nat) (x : Real) : List Char :=
  let upper (cs : List Char) : List Char :=
    if d.conversion.isUpper then cs.map Char.toUpper else cs
  let sign := sign d x.isNegative
  match x.size with
  | .error name => pad d.left width (sign ++ upper name.toList)
  | .ok (num, den) =>
    let layout : Decimal.Layout := match d.conversion.toLower with
      | 'f' => .fixed
      | 'e' => .scientific
      | _ => .general
    assemble d width true sign (upper (layout.write d.alternate (precision.getD 6) num den))

/-- What a format has been made into so far. -/
structure Progress where
  words : List (List Char) := []
  output : List (List Char) := []
  complaints : List String := []
  status : Nat := 0
  stopped : Bool := false

namespace Progress

def write (cs : List Char) (p : Progress) : Progress := { p with output := cs :: p.output }

def fail (complaint : String) (p : Progress) : Progress :=
  { p with complaints := p.complaints ++ [complaint], status := 2, stopped := true }

def note (complaint : Option String) (p : Progress) : Progress :=
  match complaint with
  | none => p
  | some c => { p with complaints := p.complaints ++ [c], status := 1 }

/-- Takes the next word; without one it is empty. -/
def next (p : Progress) : List Char × Progress :=
  (p.words.head?.getD [], { p with words := p.words.tail })

def amount (a : Amount) (p : Progress) : Int × Progress :=
  match a with
  | .known n => (n, p)
  | .word =>
    let (word, p) := p.next
    let (n, c) := number true word
    ((Int32.ofInt n).toInt, p.note c)

/-- Writes the next word as a directive asks. -/
def writeValue (d : Directive) (p : Progress) : Progress :=
  let (width, p) := p.amount d.width
  let d := { d with left := d.left || width < 0 }
  let width := width.natAbs
  let (precision, p) := match d.precision with
    | none => (none, p)
    | some a =>
      let (n, p) := p.amount a
      (if n < 0 then none else some n.toNat, p)
  let (word, p) := p.next
  let cut (cs : List Char) : List Char := match precision with
    | some n => cs.take n
    | none => cs
  match d.conversion with
  | 's' => p.write (pad d.left width (cut word))
  | 'c' => p.write (pad d.left width (if word.isEmpty then ['\x00'] else word.take 1))
  | 'b' =>
    let (text, stop) := unescape false (word.length + 1) word
    { p.write (pad d.left width (cut text)) with stopped := stop }
  | 'd' | 'i' | 'o' | 'u' | 'x' | 'X' =>
    let (n, c) := number (d.conversion = 'd' || d.conversion = 'i') word
    (p.write (writeNumber d width precision n)).note c
  | _ =>
    let (x, c) := real false word
    (p.write (writeReal d width precision x)).note c

def once : List Item → Progress → Progress
  | [], p => p
  | item :: rest, p =>
    if p.stopped then p
    else
      match item with
      | .literal text => once rest (p.write text)
      | .value d => once rest (p.writeValue d)
      | .malformed [] => p.fail "missing format character"
      | .malformed text => p.fail (String.ofList text ++ ": invalid directive")

def repeated (format : List Item) : (fuel : Nat) → Progress → Progress
  | 0, p => p
  | fuel + 1, p =>
    let q := once format p
    if q.stopped || q.words.isEmpty || q.words.length = p.words.length then q
    else repeated format fuel q

def text (p : Progress) : String := String.ofList p.output.reverse.flatten

end Progress

def apply (format : String) (words : List String) : Progress :=
  let cs := format.toList
  Progress.repeated (items (cs.length + 1) cs) (words.length + 1)
    { words := words.map String.toList }

end Gutter.Shell.Format
