import Gutter.Shell.Rules.Number

/-!
# Values

What variables and fields hold: numbers and texts, and texts from outside, which count as numbers if
they look like ones.
-/

namespace Gutter.Shell.Rules

/-- A value. -/
inductive Value where
  | unset
  | number (x : Float)
  | text (s : String)
  | given (s : String)
  deriving Inhabited

namespace Value

def isBlank (c : Char) : Bool := c ∈ [' ', '\t', '\x0B', '\x0C', '\r']

/-- The number that a text from outside is, with blanks around it. -/
def numberIn? (s : String) : Option Float :=
  let body := ((s.toList.dropWhile isBlank).reverse.dropWhile isBlank).reverse
  let endsWell := body.getLast?.any fun c => c.isDigit || c = '.'
  let startsWell := body.head?.any fun c => c.isDigit || c ∈ ['+', '-', '.']
  if !endsWell || !startsWell then none
  else if body.length ≤ 15 && body.all Char.isDigit then
    some (Float.ofNat (Shell.Number.ofDigits 10 body))
  else
    match Format.real false body with
    | (r, none) => some (Number.ofReal r)
    | (⟨_, .error _⟩, _) => if body.any Char.isDigit then some (Number.ofText s) else none
    | (_, some _) => none

def toFloat : Value → Float
  | unset => 0.0
  | number x => x
  | text s | given s => Number.ofText s

def isTrue : Value → Bool
  | unset => false
  | number x => x != 0.0
  | text s => !s.isEmpty
  | given s => ((numberIn? s).map (· != 0.0)).getD !s.isEmpty

def ofBool (b : Bool) : Value := number (if b then 1.0 else 0.0)

def ofNat (n : Nat) : Value := number (Float.ofNat n)

/-- What a value counts as in a comparison. -/
inductive Kind where
  | open
  | number (x : Float)
  | text
  deriving Inhabited

def kind : Value → Kind
  | unset => .open
  | number x => .number x
  | text _ => .text
  | given s => (numberIn? s).elim .text .number

end Value

/-! ## Formats -/

/-- Why a format cannot be filled in. -/
inductive FormatFault where
  | tooFew
  | conversion (n : Nat)
  deriving DecidableEq, Repr

namespace Formatting

/-- A directive that has been read: its flags and last letter, its numbers, and the letters of a size
in it. -/
structure Reading where
  directive : Format.Directive
  width : Int := 0
  precision : Option Int := none
  sizes : List Char := []
  args : List Value
  rest : List Char

/-- A number in a directive: digits, or the next value for a star. -/
def amount (args : List Value) (cs : List Char) : Int × List Value × List Char :=
  match cs with
  | '*' :: cs => (Number.toInt32 ((args.head?.getD .unset).toFloat), args.tail, cs)
  | cs =>
    let ds := cs.takeWhile Char.isDigit
    (Shell.Number.ofDigits 10 ds, args, cs.drop ds.length)

/-- Reads a directive behind its percent sign up to its last letter. -/
def read (args : List Value) (cs : List Char) : Reading :=
  let (directive, cs) := Format.readFlags {} cs
  let (width, args, cs) := amount args cs
  let (precision, args, cs) := match cs with
    | '.' :: cs =>
      let (n, args, cs) := amount args cs
      (some n, args, cs)
    | cs => (none, args, cs)
  let sizes := cs.takeWhile (· ∈ ['l', 'h'])
  { directive := if width < 0 then { directive with left := true } else directive
    width
    precision := precision.filter (0 ≤ ·)
    sizes
    args
    rest := cs.drop sizes.length }

def cut (isSigned : Bool) (sizes : List Char) (n : Int) : Int :=
  let bits := if sizes = ['h'] then 16 else if sizes = ['h', 'h'] then 8 else 64
  if sizes.isEmpty then n else if isSigned then n.bmod (Nat.pow 2 bits) else n % Nat.pow 2 bits

def character (v : Value) : Char :=
  let numbered (x : Float) : Char := Char.ofNat (Number.toInt32 x % 256).toNat
  match v with
  | .unset => '\x00'
  | .number x => numbered x
  | .text s => s.toList.head?.getD '\x00'
  | .given s => ((Value.numberIn? s).map numbered).getD (s.toList.head?.getD '\x00')

end Formatting

/-- A format with values filled in, as far as that is possible. `count` is the number of directives
before, and `textOf` gives the texts of values. -/
def fill (textOf : Value → String) :
    (fuel : Nat) → (count : Nat) → List Char → List Value → List Char →
    List Char × Option FormatFault
  | 0, _, _, _, done => (done.reverse, none)
  | _, _, [], _, done => (done.reverse, none)
  | fuel + 1, count, '%' :: '%' :: cs, args, done => fill textOf fuel count cs args ('%' :: done)
  | fuel + 1, count, '%' :: cs, args, done =>
    let r := Formatting.read args cs
    match r.args, r.rest with
    | [], _ => (done.reverse, some .tooFew)
    | _, [] => (done.reverse, some (.conversion (count + 1)))
    | arg :: args, c :: rest =>
      let d := { r.directive with conversion := c }
      let precision := r.precision.map Int.toNat
      let put (text : List Char) : List Char × Option FormatFault :=
        fill textOf fuel (count + 1) rest args (text.reverse ++ done)
      match c with
      | 's' =>
        let text := (textOf arg).toList
        put (Format.pad d.left r.width.natAbs (precision.elim text fun n => text.take n))
      | 'c' => put (Format.pad d.left r.width.natAbs [Formatting.character arg])
      | 'd' | 'i' =>
        let x := arg.toFloat
        let isLarge : Bool := c = 'd' && 2.0 ^ 63.0 ≤ x
        let n := if isLarge then Number.unsigned x else Number.signed x
        let n := Formatting.cut true r.sizes n
        let d := if isLarge && r.sizes.isEmpty then { d with conversion := 'u' } else d
        put (Format.writeNumber d r.width.natAbs precision n)
      | 'o' | 'x' | 'X' | 'u' =>
        let n := Formatting.cut false r.sizes (Number.unsigned arg.toFloat)
        put (Format.writeNumber d r.width.natAbs precision n)
      | 'e' | 'g' | 'f' | 'E' | 'G' | 'F' =>
        put (Format.writeReal d r.width.natAbs precision (Number.toReal arg.toFloat))
      | _ => (done.reverse, some (.conversion (count + 1)))
  | fuel + 1, count, c :: cs, args, done => fill textOf fuel count cs args (c :: done)

namespace Value

def numberText (format : String) (x : Float) : String :=
  match Number.wholeText? x with
  | some s => s
  | none =>
    let (cs, _) := fill (fun _ => "") (format.length + 1) 0 format.toList [.number x] []
    String.ofList cs

/-- The text of a value; a format is for numbers that are not whole. -/
def toText (format : String) : Value → String
  | unset => ""
  | number x => numberText format x
  | text s | given s => s

/-- How two values compare: as numbers if both count as such, and by their bytes if not. -/
def order (format : String) (a b : Value) : Ordering :=
  let numbers (x y : Float) : Ordering := if y < x then .gt else if x < y then .lt else .eq
  match a.kind, b.kind with
  | .open, .open => .eq
  | .open, .number y => numbers 0.0 y
  | .number x, .open => numbers x 0.0
  | .number x, .number y => numbers x y
  | _, _ => compare (a.toText format) (b.toText format)

end Value

end Gutter.Shell.Rules
