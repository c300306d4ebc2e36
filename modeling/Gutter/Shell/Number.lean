/-!
# Numbers in texts

Numbers are decimal unless they start with a zero, which makes them octal, or with a zero and an x,
which makes them hexadecimal. They are whole and fit into 64 bits.
-/

namespace Gutter.Shell.Number

def total (ns : List Nat) : Nat := ns.foldr (· + ·) 0

def digit? (c : Char) : Option Nat :=
  if c.isDigit then some (c.toNat - '0'.toNat)
  else if 'a' ≤ c && c ≤ 'f' then some (c.toNat - 'a'.toNat + 10)
  else if 'A' ≤ c && c ≤ 'F' then some (c.toNat - 'A'.toNat + 10)
  else none

def ofDigits (base : Nat) (ds : List Char) : Nat :=
  ds.foldl (fun n c => n * base + (digit? c).getD 0) 0

def leadingDigits (base : Nat) (cs : List Char) : List Char :=
  cs.takeWhile fun c => (digit? c).any (· < base)

def base (cs : List Char) : Nat × Nat :=
  match cs with
  | '0' :: x :: d :: _ => if (x = 'x' || x = 'X') && (digit? d).isSome then (16, 2) else (8, 0)
  | '0' :: _ => (8, 0)
  | _ => (10, 0)

def leadingNat (cs : List Char) : Nat × List Char :=
  let (b, n) := base cs
  let ds := leadingDigits b (cs.drop n)
  (ofDigits b ds, cs.drop (n + ds.length))

def isBlank (c : Char) : Bool := c ∈ [' ', '\t', '\n', '\x0B', '\x0C', '\r']

/-- The number with a sign at the front of a text, after blanks, and what follows it. If there is no
number, it is zero, and all of the text follows. -/
def leadingInt (decimal : Bool) (cs : List Char) : Int × List Char :=
  let (isNegative, body) := match cs.dropWhile isBlank with
    | '-' :: body => (true, body)
    | '+' :: body => (false, body)
    | body => (false, body)
  let (n, rest) :=
    if decimal then
      let ds := leadingDigits 10 body
      (ofDigits 10 ds, body.drop ds.length)
    else leadingNat body
  (if isNegative then -(n : Int) else n, if rest.length = body.length then cs else rest)

def fits (n : Int) : Bool := -Nat.pow 2 63 ≤ n && n < Nat.pow 2 63

def clamp (n : Int) : Int := max (-Nat.pow 2 63) (min n (Nat.pow 2 63 - 1))

def decimal? (s : String) : Option Int :=
  let (n, rest) := leadingInt true s.toList
  if rest.length < s.length && rest.all isBlank && fits n then some n else none

def count? (s : String) : Option Nat :=
  match decimal? s with
  | some (.ofNat n) => if n < Nat.pow 2 31 then some n else none
  | _ => none

/-- The number that a text is, with blanks around it; a text of blanks is zero. -/
def value? (s : String) : Option Int :=
  let (n, rest) := leadingInt false s.toList
  if rest.all isBlank && fits n then some n else none

def plain? (s : String) : Option Nat :=
  if !s.isEmpty && s.toList.all Char.isDigit && ofDigits 10 s.toList < Nat.pow 2 31 then
    some (ofDigits 10 s.toList)
  else none

/-- Why a text is no size. -/
inductive SizeFault where
  | invalid
  | tooLarge
  deriving DecidableEq, Repr

def SizeFault.reason : SizeFault → String
  | .invalid => ""
  | .tooLarge => ": Value too large for defined data type"

/-- How much a unit stands for, as a base and a power of it. A letter alone or with `iB` counts by
1024, with `B` by 1000; the letter `b` stands for 512. -/
def unit? (letters : List Char) (cs : List Char) : Option (Nat × Nat) :=
  let powers := [('k', 1), ('K', 1), ('m', 2), ('M', 2), ('g', 3), ('G', 3), ('t', 4), ('T', 4),
    ('P', 5), ('E', 6), ('Z', 7), ('Y', 8), ('R', 9), ('Q', 10)]
  match cs with
  | [] => some (1, 0)
  | c :: more =>
    if c ∉ letters then none
    else if c = 'b' then (if more.isEmpty then some (512, 1) else none)
    else
      (powers.lookup c).bind fun power =>
        match more with
        | [] | ['i', 'B'] => some (1024, power)
        | ['B'] | ['D'] => some (1000, power)
        | _ => none

/-- The size that a text gives, with a unit of some that are known. -/
def size? (letters : String) (text : String) : Except SizeFault Nat :=
  let cs := text.toList.dropWhile isBlank
  let body := if cs.head? = some '+' then cs.tail else cs
  let ds := leadingDigits 10 body
  let rest := body.drop ds.length
  if ds.isEmpty && (rest.isEmpty || cs.length ≠ body.length) then .error .invalid
  else
    match unit? letters.toList rest with
    | none => .error .invalid
    | some (base, power) =>
      let n := (if ds.isEmpty then 1 else ofDigits 10 ds) * Nat.pow base power
      if n < UInt64.size then .ok n else .error .tooLarge

end Gutter.Shell.Number
