import Gutter.Decimal.Binary64
import Gutter.Toml.Value

/-!
# Words of a TOML text

Blanks, keys, strings, numbers, dates and times. Each reader gives what it has read and the text
after it, or refuses the text.
-/

namespace Gutter.Toml

abbrev Parsed (α : Type) := α × List Char

/-! ## Blanks -/

def isBlank (c : Char) : Bool := c = ' ' || c = '\t'

def isPlain (c : Char) : Bool := c = '\t' || (0x20 ≤ c.toNat && c.toNat ≠ 0x7F)

def skipBlanks (cs : List Char) : List Char := cs.dropWhile isBlank

def lineBreak? : List Char → Option (List Char)
  | '\n' :: rest => some rest
  | '\r' :: '\n' :: rest => some rest
  | _ => none

def skipComment (cs : List Char) : List Char :=
  match skipBlanks cs with
  | '#' :: rest => rest.dropWhile isPlain
  | rest => rest

mutual

/-- The text after all blanks, comments and line breaks in front of it. -/
def skipGap : List Char → List Char
  | ' ' :: cs => skipGap cs
  | '\t' :: cs => skipGap cs
  | '\n' :: cs => skipGap cs
  | '\r' :: '\n' :: cs => skipGap cs
  | '#' :: cs => skipNote cs
  | cs => cs

def skipNote : List Char → List Char
  | [] => []
  | '\n' :: cs => skipGap cs
  | '\r' :: '\n' :: cs => skipGap cs
  | c :: cs => if isPlain c then skipNote cs else c :: cs

end

/-! ## Strings -/

def hexDigit? (c : Char) : Option Nat :=
  if c.isDigit then some (c.toNat - '0'.toNat)
  else if 'a' ≤ c && c ≤ 'f' then some (c.toNat - 'a'.toNat + 10)
  else if 'A' ≤ c && c ≤ 'F' then some (c.toNat - 'A'.toNat + 10)
  else none

def scanPoint : (digits : Nat) → (soFar : Nat) → List Char → Option (Parsed Char)
  | 0, n, cs => if n.isValidChar then some (Char.ofNat n, cs) else none
  | _ + 1, _, [] => none
  | digits + 1, n, c :: cs => do scanPoint digits (n * 16 + (← hexDigit? c)) cs

/-- The character that a backslash and the text after it stand for. -/
def scanEscape : List Char → Option (Parsed Char)
  | 'b' :: cs => some ('\x08', cs)
  | 't' :: cs => some ('\t', cs)
  | 'n' :: cs => some ('\n', cs)
  | 'f' :: cs => some ('\x0C', cs)
  | 'r' :: cs => some ('\r', cs)
  | 'e' :: cs => some ('\x1B', cs)
  | '"' :: cs => some ('"', cs)
  | '\\' :: cs => some ('\\', cs)
  | 'x' :: cs => scanPoint 2 0 cs
  | 'u' :: cs => scanPoint 4 0 cs
  | 'U' :: cs => scanPoint 8 0 cs
  | _ => none

/-- The rest of a string on one line, up to its closing quote. -/
def scanLine (quote : Char) (escapes : Bool) :
    (fuel : Nat) → List Char → Option (Parsed (List Char))
  | 0, _ => none
  | _, [] => none
  | fuel + 1, c :: cs =>
    if c = quote then some ([], cs)
    else if escapes && c = '\\' then do
      let (x, cs) ← scanEscape cs
      let (text, cs) ← scanLine quote escapes fuel cs
      return (x :: text, cs)
    else if isPlain c then do
      let (text, cs) ← scanLine quote escapes fuel cs
      return (c :: text, cs)
    else none

/-- The text after the blanks and line breaks in front of it. -/
def skipMargin : List Char → List Char
  | ' ' :: cs => skipMargin cs
  | '\t' :: cs => skipMargin cs
  | '\n' :: cs => skipMargin cs
  | '\r' :: '\n' :: cs => skipMargin cs
  | cs => cs

/-- The text after a backslash at the end of a line: the blanks and line breaks that follow do not
count. -/
def lineContinuation? (cs : List Char) : Option (List Char) :=
  (lineBreak? (skipBlanks cs)).map skipMargin

/-- The rest of a string of several lines, up to its three closing quotes. Up to two more quotes
before them belong to the string. -/
def scanBlock (quote : Char) (escapes : Bool) :
    (fuel : Nat) → List Char → Option (Parsed (List Char))
  | 0, _ => none
  | _, [] => none
  | fuel + 1, c :: cs =>
    if c = quote then
      match cs.takeWhile (· = quote) with
      | [] | [_] => do
        let (text, cs) ← scanBlock quote escapes fuel cs
        return (c :: text, cs)
      | more =>
        let extra := min (more.length - 2) 2
        some (List.replicate extra quote, cs.drop (extra + 2))
    else if escapes && c = '\\' then
      match lineContinuation? cs with
      | some cs => scanBlock quote escapes fuel cs
      | none => do
        let (x, cs) ← scanEscape cs
        let (text, cs) ← scanBlock quote escapes fuel cs
        return (x :: text, cs)
    else
      match lineBreak? (c :: cs) with
      | some rest => do
        let (text, cs) ← scanBlock quote escapes fuel rest
        return ((if c = '\r' then ['\r', '\n'] else ['\n']) ++ text, cs)
      | none => do
        guard (isPlain c)
        let (text, cs) ← scanBlock quote escapes fuel cs
        return (c :: text, cs)

/-- The string that starts here. -/
def scanString (cs : List Char) : Option (Parsed String) := do
  let fuel := cs.length + 1
  let opened (rest : List Char) := (lineBreak? rest).getD rest
  let (text, rest) ← match cs with
    | '"' :: '"' :: '"' :: rest => scanBlock '"' true fuel (opened rest)
    | '\'' :: '\'' :: '\'' :: rest => scanBlock '\'' false fuel (opened rest)
    | '"' :: rest => scanLine '"' true fuel rest
    | '\'' :: rest => scanLine '\'' false fuel rest
    | _ => none
  return (String.ofList text, rest)

/-! ## Keys -/

def isBare (c : Char) : Bool := c.isAlphanum || c = '_' || c = '-'

/-- The key that starts here, without dots. -/
def scanSimpleKey (cs : List Char) : Option (Parsed String) :=
  match cs with
  | '"' :: rest => (scanLine '"' true (cs.length + 1) rest).map fun x => (String.ofList x.1, x.2)
  | '\'' :: rest => (scanLine '\'' false (cs.length + 1) rest).map fun x => (String.ofList x.1, x.2)
  | cs =>
    match cs.takeWhile isBare with
    | [] => none
    | key => some (String.ofList key, cs.dropWhile isBare)

/-- The key that starts here: its parts but the last, and the last. -/
def scanKeyParts : (fuel : Nat) → List Char → Option (Parsed (List String × String))
  | 0, _ => none
  | fuel + 1, cs => do
    let (key, rest) ← scanSimpleKey (skipBlanks cs)
    match skipBlanks rest with
    | '.' :: rest => do
      let ((path, last), rest) ← scanKeyParts fuel rest
      return ((key :: path, last), rest)
    | rest => return (([], key), rest)

/-- How deep things may lie inside one another: the parts of a key, and the brackets that are open
at one place. -/
def depthLimit : Nat := 80

/-- The key that starts here, perhaps with dots. The text after it has no blanks in front. -/
def scanKey (cs : List Char) : Option (Parsed (List String × String)) := do
  let ((path, key), rest) ← scanKeyParts (cs.length + 1) cs
  guard (path.length < depthLimit)
  return ((path, key), rest)

/-! ## Numbers -/

/-- The digits of a number without the underscores between them. An underscore stands between two
digits. -/
def digits? (isDigit : Char → Bool) : List Char → Option (List Char)
  | [] => none
  | [c] => if isDigit c then some [c] else none
  | c :: '_' :: rest => if isDigit c then (digits? isDigit rest).map (c :: ·) else none
  | c :: rest => if isDigit c then (digits? isDigit rest).map (c :: ·) else none

def ofDigits (base : Nat) (cs : List Char) : Nat :=
  cs.foldl (fun n c => n * base + (hexDigit? c).getD 0) 0

def natural? (base : Nat) (cs : List Char) : Option Nat :=
  (digits? (fun c => (hexDigit? c).any (· < base)) cs).map (ofDigits base)

/-- The digits of a decimal number. They do not start with a zero unless that is all. -/
def wholeDigits? (cs : List Char) : Option (List Char) := do
  let ds ← digits? Char.isDigit cs
  match ds with
  | '0' :: _ :: _ => none
  | ds => some ds

def splitSign : List Char → Bool × List Char
  | '-' :: cs => (true, cs)
  | '+' :: cs => (false, cs)
  | cs => (false, cs)

/-- The integers that can be told apart: they fit 128 bits, with or without a sign. -/
def isHeld (n : Int) : Bool := -Nat.pow 2 127 ≤ n && n < Nat.pow 2 128

/-- The integer that a word stands for. -/
def integer? (word : List Char) : Option Int :=
  match word with
  | '0' :: 'x' :: cs => (natural? 16 cs).map Int.ofNat
  | '0' :: 'o' :: cs => (natural? 8 cs).map Int.ofNat
  | '0' :: 'b' :: cs => (natural? 2 cs).map Int.ofNat
  | word =>
    let (negative, cs) := splitSign word
    (wholeDigits? cs).map fun ds =>
      let n : Int := ofDigits 10 ds
      if negative then -n else n

def exponent? (cs : List Char) : Option Int :=
  let (negative, cs) := splitSign cs
  (natural? 10 cs).map fun n => if negative then -n else n

/-- Whether a word stands for a number with a fraction or an exponent that double precision can
hold. -/
def isFloat (word : List Char) : Bool :=
  let (_, cs) := splitSign word
  if cs = ['i', 'n', 'f'] || cs = ['n', 'a', 'n'] then true
  else
    let isExponentMark (c : Char) := c = 'e' || c = 'E'
    let mantissa := cs.takeWhile (fun c => !isExponentMark c)
    let tail := cs.dropWhile (fun c => !isExponentMark c)
    let whole := mantissa.takeWhile (· ≠ '.')
    let parts : Option (List Char × List Char × Int) := do
      let whole ← wholeDigits? whole
      let fraction ← match mantissa.dropWhile (· ≠ '.') with
        | [] => if tail.isEmpty then none else some []
        | _ :: fraction => digits? Char.isDigit fraction
      let e ← match tail with
        | [] => some 0
        | _ :: e => exponent? e
      return (whole, fraction, e)
    match parts with
    | none => false
    | some (whole, fraction, e) =>
      (Binary64.nearest? (ofDigits 10 (whole ++ fraction)) (e - (fraction.length : Int))).isSome

/-! ## Dates and times -/

def scanFixed (n : Nat) (cs : List Char) : Option (Parsed Nat) :=
  let ds := cs.take n
  if ds.length = n && ds.all Char.isDigit then some (ofDigits 10 ds, cs.drop n) else none

def expect (c : Char) : List Char → Option (List Char)
  | d :: rest => if c = d then some rest else none
  | [] => none

def monthLength (year month : Nat) : Nat :=
  if month = 2 then
    if year % 4 = 0 && (year % 100 ≠ 0 || year % 400 = 0) then 29 else 28
  else if month ∈ [4, 6, 9, 11] then 30 else 31

def twoDigits (n : Nat) : String := if n < 10 then "0" ++ toString n else toString n

/-- A date. -/
def scanDate (cs : List Char) : Option (Parsed String) := do
  let (year, rest) ← scanFixed 4 cs
  let (month, rest) ← scanFixed 2 (← expect '-' rest)
  let (day, rest) ← scanFixed 2 (← expect '-' rest)
  guard (1 ≤ month && month ≤ 12 && 1 ≤ day && day ≤ monthLength year month)
  return (String.ofList (cs.take 10), rest)

/-- The fraction of a second, to the nanosecond, without the zeros at its end; one digit stays. -/
def secondFraction (ds : List Char) : String :=
  match ((ds.take 9).reverse.dropWhile (· = '0')).reverse with
  | [] => ".0"
  | ds => "." ++ String.ofList ds

/-- The seconds of a time, which may be absent. -/
def scanSeconds (cs : List Char) : Option (Parsed String) :=
  match cs with
  | ':' :: rest => do
    let (second, rest) ← scanFixed 2 rest
    guard (second ≤ 60)
    let text := ":" ++ twoDigits second
    match rest with
    | '.' :: rest => do
      let ds := rest.takeWhile Char.isDigit
      guard !ds.isEmpty
      return (text ++ secondFraction ds, rest.dropWhile Char.isDigit)
    | rest => return (text, rest)
  | rest => some ("", rest)

/-- A time of day. -/
def scanTime (cs : List Char) : Option (Parsed String) := do
  let (hour, rest) ← scanFixed 2 cs
  let (minute, rest) ← scanFixed 2 (← expect ':' rest)
  guard (hour ≤ 23 && minute ≤ 59)
  let (seconds, rest) ← scanSeconds rest
  return (twoDigits hour ++ ":" ++ twoDigits minute ++ seconds, rest)

/-- The offset of a time of day, which may be absent. No offset is negative and zero. -/
def scanOffset (cs : List Char) : Option (Parsed String) := do
  match cs with
  | [] => some ("", [])
  | c :: rest =>
    if c = 'Z' || c = 'z' then some ("Z", rest)
    else if c = '+' || c = '-' then do
      let (hour, rest) ← scanFixed 2 rest
      let (minute, rest) ← scanFixed 2 (← expect ':' rest)
      guard (hour ≤ 23 && minute ≤ 59)
      let sign := if hour = 0 && minute = 0 then "+" else c.toString
      return (sign ++ twoDigits hour ++ ":" ++ twoDigits minute, rest)
    else none

/-- The date, the time or both that a word stands for. -/
def moment? (word : List Char) : Option String :=
  match scanDate word with
  | some (date, []) => some date
  | some (date, c :: rest) => do
    guard (c = 'T' || c = 't' || c = ' ')
    let (time, rest) ← scanTime rest
    let (offset, rest) ← scanOffset rest
    if rest.isEmpty then some (date ++ "T" ++ time ++ offset) else none
  | none =>
    match scanTime word with
    | some (time, []) => some time
    | _ => none

/-! ## Words -/

def isWordChar (c : Char) : Bool :=
  c.isAlphanum || c = '_' || c = '-' || c = '+' || c = '.' || c = ':'

/-- The value of a word without quotes. -/
def Value.ofWord? (word : List Char) : Option Value :=
  if word = ['t', 'r', 'u', 'e'] then some (.boolean true)
  else if word = ['f', 'a', 'l', 's', 'e'] then some (.boolean false)
  else
    match integer? word with
    | some n => if isHeld n then some (.integer n) else none
    | none => if isFloat word then some .float else (moment? word).map .moment

/-- The word that starts here. A date and a time may have a blank between them. -/
def scanWord (cs : List Char) : Option (Parsed Value) :=
  let word := cs.takeWhile isWordChar
  let rest := cs.dropWhile isWordChar
  match scanDate word, rest with
  | some (_, []), ' ' :: c :: after =>
    if c.isDigit then do
      let time := (c :: after).takeWhile isWordChar
      let value ← Value.ofWord? (word ++ ' ' :: time)
      return (value, (c :: after).dropWhile isWordChar)
    else (Value.ofWord? word).map (·, rest)
  | _, _ => (Value.ofWord? word).map (·, rest)

end Gutter.Toml
