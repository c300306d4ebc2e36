import Gutter.Shell.Format
import Gutter.Shell.Tool

/-!
# The program that formats its arguments

It goes through its format until no arguments are left, and is strict about the format: a directive
that there is not, or that makes no sense with its flags, ends the program.
-/

namespace Gutter.Shell.Tool.Printf

/-- How far the program has come. -/
structure Run where
  words : List String
  progress : Progress
  isOver : Bool := false
  hasTaken : Bool := false

namespace Run

def write (cs : List Char) (r : Run) : Run :=
  { r with progress := r.progress.write 1 (Text.Octets.toBytes (String.ofList cs)) }

def fail (s : Supply) (text : String) (r : Run) : Run :=
  { r with progress := r.progress.complain s 1 text, isOver := true }

def next (r : Run) : Option String × Run :=
  match r.words with
  | [] => (none, r)
  | word :: words => (some word, { r with words, hasTaken := true })

def note (s : Supply) (word : String) (complaint : Option String) (r : Run) : Run :=
  match complaint with
  | none => r
  | some c =>
    let reason := if c.endsWith "expected numeric value" then "expected a numeric value"
      else if c.endsWith "range" then "Numerical result out of range"
      else "value not completely converted"
    { r with progress := r.progress.complain s 1 (Quoting.word word ++ ": " ++ reason) }

def noteConstant (s : Supply) (word : String) (r : Run) : Run :=
  match word.toList with
  | q :: _ :: rest@(_ :: _) =>
    if q = '\'' || q = '"' then
      { r with progress := r.progress.write 2 (s.complaint ("warning: " ++ String.ofList rest ++
          ": character(s) following character constant have been ignored")) }
    else r
  | _ => r

def number (s : Supply) (signed : Bool) (word : String) (r : Run) : Int × Run :=
  let (n, c) := Format.number signed word.toList
  (n, (r.note s word c).noteConstant s word)

end Run

/-- The text of an escape after its backslash, and how many characters it has. `keepsZero` says that
a zero may stand before the digits of a number; an error ends the program. -/
def escape (keepsZero : Bool) (cs : List Char) : Except String (List Char × Nat) :=
  let octal (ds : List Char) (n : Nat) : Except String (List Char × Nat) :=
    .ok ([Format.ofOctal ds], n)
  match cs with
  | 'x' :: rest =>
    let ds := (rest.take 2).takeWhile fun c => (Number.digit? c).isSome
    if ds.isEmpty then .error "missing hexadecimal number in escape"
    else .ok ([Char.ofNat (Number.ofDigits 16 ds)], ds.length + 1)
  | 'u' :: rest => code 4 rest
  | 'U' :: rest => code 8 rest
  | '"' :: _ => .ok (['"'], 1)
  | c :: rest =>
    if keepsZero && c = '0' then
      let ds := (rest.take 3).takeWhile Format.isOctal
      octal ds (ds.length + 1)
    else if Format.isOctal c then
      let ds := (cs.take 3).takeWhile Format.isOctal
      octal ds ds.length
    else
      match Format.escaped? c with
      | some x => .ok ([x], 1)
      | none => .ok (['\\', c], 1)
  | [] => .ok (['\\'], 0)
where
  /-- A character by its number, with so many digits. Where only ASCII can be shown, the number is
  written for any other one. -/
  code (n : Nat) (cs : List Char) : Except String (List Char × Nat) :=
    let ds := (cs.take n).takeWhile fun c => (Number.digit? c).isSome
    let value := Number.ofDigits 16 ds
    let shown (width : Nat) : List Char :=
      let ds := (Nat.toDigits 16 value).map Char.toUpper
      List.replicate (width - ds.length) '0' ++ ds
    let letter : List Char := if n = 4 then ['u'] else ['U']
    if ds.length < n then .error "missing hexadecimal number in escape"
    else if (value < 0xA0 && value ∉ [0x24, 0x40, 0x60]) || (0xD800 ≤ value && value < 0xE000) then
      .error ("invalid universal character name \\" ++
        String.ofList (letter ++ (shown n).map Char.toLower))
    else if value < 0x80 then .ok ([Char.ofNat value], n + 1)
    else .ok ('\\' :: (if value < 0x10000 then 'u' :: shown 4 else 'U' :: shown 8), n + 1)

/-- Writes a text with escapes. -/
def unescape (s : Supply) : (fuel : Nat) → List Char → Run → Run
  | 0, _, r => r
  | fuel + 1, cs, r =>
    let plain := cs.takeWhile (· ≠ '\\')
    let r := r.write plain
    match cs.drop plain.length with
    | [] => r
    | _ :: 'c' :: _ => { r with isOver := true }
    | _ :: cs =>
      match escape true cs with
      | .error e => r.fail s e
      | .ok (text, n) => unescape s fuel (cs.drop n) (r.write text)

def allowed (flags : List Char) (hasPrecision : Bool) : List Char :=
  "aAcdeEfFgGiosuxX".toList.filter fun c =>
    !(flags.any (fun f => f = 'I' || f = '\'') && c ∈ "aAceEosxX".toList) &&
    !('#' ∈ flags && c ∈ "cdisu".toList) && !('0' ∈ flags && c ∈ "cs".toList) &&
    !(hasPrecision && c = 'c')

/-- The number in a directive: digits, or the next word for a star. -/
def amount (s : Supply) (name : String) (cs : List Char) (r : Run) :
    Int × List Char × Run :=
  match cs with
  | '*' :: cs =>
    match r.next with
    | (none, r) => (0, cs, r)
    | (some word, r) =>
      let (n, r) := r.number s true word
      if n.natAbs < Nat.pow 2 31 || (name = "precision" && n < 0) then (n, cs, r)
      else (0, cs, r.fail s ("invalid " ++ name ++ ": " ++ Quoting.word word))
  | cs =>
    let ds := cs.takeWhile Char.isDigit
    (Number.ofDigits 10 ds, cs.drop ds.length, r)

/-- Writes what a directive asks for; `cs` is what follows its percent sign. The answer has what
follows the directive. -/
def directive (s : Supply) (cs : List Char) (r : Run) : List Char × Run :=
  match cs with
  | '%' :: cs => (cs, r.write ['%'])
  | 'b' :: cs =>
    match r.next with
    | (some word, r) => (cs, unescape s (word.length + 1) word.toList r)
    | (none, r) => (cs, r)
  | 'q' :: cs =>
    match r.next with
    | (some word, r) => (cs, r.write (Quoting.shellName word).toList)
    | (none, r) => (cs, r)
  | cs =>
    let flags := cs.takeWhile (· ∈ ['I', '\'', '-', '+', ' ', '#', '0'])
    let (width, rest, r) := amount s "field width" (cs.drop flags.length) r
    if r.isOver then ([], r)
    else
      let hasPrecision := rest.head? = some '.'
      let (precision, rest, r) := if hasPrecision then amount s "precision" rest.tail r
        else (-1, rest, r)
      if r.isOver then ([], r)
      else
        let rest := rest.dropWhile (· ∈ ['l', 'L', 'h', 'j', 't', 'z'])
        let conversion := rest.head?.getD '\x00'
        if conversion ∉ allowed flags hasPrecision then
          let text := '%' :: cs.take (cs.length - rest.length + 1)
          ([], r.fail s (String.ofList text ++ ": invalid conversion specification"))
        else
          let d : Format.Directive :=
            { left := '-' ∈ flags || width < 0, zero := '0' ∈ flags, plus := '+' ∈ flags
              blank := ' ' ∈ flags, alternate := '#' ∈ flags, conversion }
          let precision := if precision < 0 then none else some precision.toNat
          let (word, r) := r.next
          let word := word.getD ""
          let pad (cs : List Char) : List Char := Format.pad d.left width.natAbs cs
          let r := match conversion with
            | 's' => r.write (pad (precision.elim word.toList word.toList.take))
            | 'c' => r.write (pad (if word.isEmpty then ['\x00'] else word.toList.take 1))
            | 'd' | 'i' | 'o' | 'u' | 'x' | 'X' =>
              let (n, r) := r.number s (conversion = 'd' || conversion = 'i') word
              r.write (Format.writeNumber d width.natAbs precision n)
            | _ =>
              let (x, c) := Format.real true word.toList
              let r := (r.note s word c).noteConstant s word
              r.write (Format.writeReal d width.natAbs precision x)
          (rest.drop 1, r)

/-- Goes through a format once. -/
def once (s : Supply) : (fuel : Nat) → List Char → Run → Run
  | 0, _, r => r
  | fuel + 1, cs, r =>
    if r.isOver then r
    else
      let plain := cs.takeWhile fun c => c ≠ '%' && c ≠ '\\'
      let r := r.write plain
      match cs.drop plain.length with
      | [] => r
      | '%' :: cs =>
        let (rest, r) := directive s cs r
        once s fuel rest r
      | _ :: 'c' :: _ => { r with isOver := true }
      | _ :: cs =>
        match escape false cs with
        | .error e => r.fail s e
        | .ok (text, n) => once s fuel (cs.drop n) (r.write text)

/-- Goes through a format until no words are left. -/
def repeated (s : Supply) (format : List Char) : (fuel : Nat) → Run → Run
  | 0, r => r
  | fuel + 1, r =>
    let r := once s (format.length + 1) format { r with hasTaken := false }
    if r.isOver then r
    else if r.hasTaken && !r.words.isEmpty then repeated s format fuel r
    else
      match r.words with
      | [] => r
      | word :: _ =>
        { r with progress := r.progress.write 2 (s.complaint
            ("warning: ignoring excess arguments, starting with " ++ Quoting.word word)) }

end Printf

def printf : Tool := fun s =>
  s.onlyArgument?.getD <|
    match if s.args.head? = some "--" then s.args.tail else s.args with
    | [] => s.misuse 1 "missing operand"
    | format :: words =>
      (Printf.repeated s format.toList (words.length + 1)
        { words, progress := .start s }).progress.ending

end Gutter.Shell.Tool
