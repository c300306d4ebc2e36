import Gutter.Shell.Format
import Gutter.Shell.Tool

/-!
# Programs that print their arguments
-/

namespace Gutter.Shell.Tool

/-! ## Words -/

/-- Words with blanks between them, perhaps with escapes replaced, and a line break unless it is not
wanted. -/
def joined (words : List String) (hasEscapes wantsBreak : Bool) : String :=
  let text := " ".intercalate words
  let (text, stop) :=
    if hasEscapes && '\\' ∈ text.toList then
      let (cs, stop) := Format.unescape false (text.length + 1) text.toList
      (String.ofList cs, stop)
    else (text, false)
  if stop || !wantsBreak then text else text ++ "\n"

def constant (status : Nat) : Tool := fun s => s.onlyArgument?.getD (s.finish status)

/-- Prints its arguments. Options stand before them. -/
def echo : Tool := fun s =>
  s.onlyArgument?.getD <|
    let isOption (arg : String) : Bool := match arg.toList with
      | '-' :: c :: cs => (c :: cs).all (· ∈ ['n', 'e', 'E'])
      | _ => false
    let options := s.args.takeWhile isOption
    let letters := (options.flatMap String.toList).filter (· ≠ '-')
    let text := " ".intercalate (s.args.drop options.length)
    let (cs, stop) :=
      if (letters.filter (· ≠ 'n')).getLast? = some 'e' then
        Format.unescape true (text.length + 1) text.toList
      else (text.toList, false)
    s.print (String.ofList cs ++ if stop || 'n' ∈ letters then "" else "\n")

/-- Prints its arguments, or a letter, again and again. What reads its output never needs more of it
than this. -/
def yes : Tool := fun s =>
  s.withOptions { endsAtWord := true } 1 fun o =>
    let line := " ".intercalate (if o.words.isEmpty then ["y"] else o.words) ++ "\n"
    s.print (String.join (List.replicate (131072 / line.length + 1) line))

/-- Prints the values of variables, or all variables. -/
def printenv : Tool := fun s =>
  let table : OptionTable :=
    { letters := "0", names := [("null", .nothing, "0")], endsAtWord := true,
      usage := "[OPTION]... [VARIABLE]..." }
  s.withOptions table 2 fun o =>
    let values := o.words.map fun name =>
      if '=' ∈ name.toList then none else s.environment.lookup name
    let lines := if o.words.isEmpty then s.environment.map fun x => x.1 ++ "=" ++ x.2
      else values.filterMap id
    let e := s.print (String.join (lines.map (· ++ if o.has "0" then "\x00" else "\n")))
    { e with status := .code (if values.all Option.isSome then 0 else 1) }

/-! ## Paths -/

def lastName (path : String) : String :=
  let trimmed := path.toList.reverse.dropWhile (· = '/')
  if trimmed.isEmpty && !path.isEmpty then "/"
  else String.ofList (trimmed.takeWhile (· ≠ '/')).reverse

def directoryName (path : String) : String :=
  let trimmed := path.toList.reverse.dropWhile (· = '/')
  if trimmed.isEmpty then (if path.isEmpty then "." else "/")
  else
    let rest := trimmed.dropWhile (· ≠ '/')
    if rest.isEmpty then "."
    else
      let rest := rest.dropWhile (· = '/')
      if rest.isEmpty then "/" else String.ofList rest.reverse

/-- Prints the last names of paths, perhaps without an ending. -/
def basename : Tool := fun s =>
  let table : OptionTable :=
    { letters := "as:z"
      names := [("multiple", .nothing, "a"), ("suffix", .value, "s"), ("zero", .nothing, "z")]
      endsAtWord := true
      usage := "NAME [SUFFIX]" }
  s.withOptions table 1 fun o =>
    let isMultiple := o.has "a" || o.has "s"
    let print (paths : List String) (ending : String) : Ending :=
      s.print (String.join (paths.map fun path =>
        let name := lastName path
        let isEnding := ending.toList.isSuffixOf name.toList && ending ≠ name
        (if isEnding then String.ofList (name.toList.take (name.length - ending.length)) else name)
          ++ if o.has "z" then "\x00" else "\n"))
    match o.words, isMultiple with
    | [], _ => s.misuse 1 "missing operand"
    | paths, true => print paths ((o.value? "s").getD "")
    | [path], false => print [path] ""
    | [path, ending], false => print [path] ending
    | _ :: _ :: other :: _, false => s.misuse 1 ("extra operand " ++ Quoting.word other)

def dirname : Tool := fun s =>
  let table : OptionTable :=
    { letters := "z", names := [("zero", .nothing, "z")], endsAtWord := true,
      usage := "[OPTION] NAME..." }
  s.withOptions table 1 fun o =>
    if o.words.isEmpty then s.misuse 1 "missing operand"
    else
      s.print (String.join (o.words.map fun path =>
        directoryName path ++ if o.has "z" then "\x00" else "\n"))

/-- Prints the directory in which it is started. -/
def pwd : Tool := fun s =>
  let table : OptionTable :=
    { letters := "LP", names := [("logical", .nothing, "L"), ("physical", .nothing, "P")] }
  s.withOptions table 1 fun o =>
    let physical := if s.directory.isEmpty then "/"
      else String.join (s.directory.map fun name => "/" ++ Text.Octets.ofBytes name)
    let logical? := (s.environment.lookup "PWD").filter fun path =>
      path.startsWith "/" &&
        (s.files.locate s.directory (pathOf path)).toOption = some s.directory
    let isLogical := (o.last? ["L", "P"]).any (·.1 = "L")
    let e := s.print ((if isLogical then logical?.getD physical else physical) ++ "\n")
    if o.words.isEmpty then e
    else { e with written := (2, s.complaint "ignoring non-option arguments") :: e.written }

/-! ## Numbers -/

/-- A number in an argument: what it is in units of a power of ten, how many places it is written
with, and how many characters it takes when it is written out. -/
structure Numeral where
  value : Int
  places : Nat
  width : Nat

namespace Numeral

/-- The number that an argument spells. -/
def ofText? (text : String) : Option Numeral := do
  let cs := text.toList.dropWhile Number.isBlank
  let (isNegative, body) := match cs with
    | '-' :: cs => (true, cs)
    | '+' :: cs => (false, cs)
    | cs => (false, cs)
  let (ds, places, n) := Format.readDigits 10 body
  let (power, m) := Format.readPower ['e', 'E'] (body.drop n)
  if ds.isEmpty || n + m ≠ body.length then none
  else
    let least := (places - power).toNat
    let size : Int := Number.ofDigits 10 ds * Nat.pow 10 (least + power - places).toNat
    let whole := max 1 (n - if '.' ∈ body.take n then places + 1 else 0) + power.toNat
    let width := (if isNegative then 1 else 0) + whole + if least = 0 then 0 else least + 1
    return ⟨if isNegative then -size else size, least, width⟩

def scaled (places : Nat) (n : Numeral) : Int := n.value * Nat.pow 10 (places - n.places)

end Numeral

def pointedNumber (places : Nat) (n : Int) : String :=
  String.ofList ((if n < 0 then ['-'] else []) ++
    Decimal.Layout.pointed false places n.natAbs)

/-- What a format for numbers consists of: the text before the number, how it is written, and the
text after it. -/
def numberFormat? (format : String) :
    Except String (List Char × Format.Directive × List Char) :=
  let rec literal : (fuel : Nat) → List Char → List Char × List Char
    | 0, cs => ([], cs)
    | fuel + 1, '%' :: '%' :: cs => let (a, b) := literal fuel cs; ('%' :: a, b)
    | _, '%' :: cs => ([], '%' :: cs)
    | fuel + 1, c :: cs => let (a, b) := literal fuel cs; (c :: a, b)
    | _, [] => ([], [])
  let about (text : String) : String := "format " ++ Quoting.word format ++ " " ++ text
  let (before, rest) := literal (format.length + 1) format.toList
  match rest with
  | [] => .error (about "has no % directive")
  | _ :: cs =>
    let (d, rest) := Format.readFlags {} (cs.filter (· ≠ '\''))
    let (width, rest) := Format.readAmount rest
    let (precision, rest) := match rest with
      | '.' :: rest => let (n, rest) := Format.readAmount rest; (some n, rest)
      | rest => (none, rest)
    match if rest.head? = some 'L' then rest.tail else rest with
    | [] => .error (about "ends in %")
    | c :: rest =>
      if c ∉ ['e', 'E', 'f', 'F', 'g', 'G'] then
        .error (about ("has unknown %" ++ c.toString ++ " directive"))
      else
        let (after, rest) := literal (format.length + 1) rest
        if rest.isEmpty then .ok (before, { d with width, precision, conversion := c }, after)
        else .error (about "has too many % directives")

/-- Prints numbers from a first to a last one. -/
def seq : Tool := fun s =>
  let table : OptionTable :=
    { letters := "f:s:w"
      names := [("equal-width", .nothing, "w"), ("format", .value, "f"), ("separator", .value, "s")]
      endsAtWord := true
      usage := "[OPTION]... LAST" }
  -- A negative number is no option.
  let isNumber (arg : String) : Bool := match arg.toList with
    | '-' :: c :: _ => c.isDigit || c = '.'
    | _ => false
  let takesNext (arg : String) : Bool := arg ∈ ["-f", "-s", "--format", "--separator"]
  let rec mark : List String → List String
    | [] => []
    | arg :: args =>
      if isNumber arg then "--" :: arg :: args
      else if takesNext arg then
        match args with
        | next :: args => arg :: next :: mark args
        | [] => [arg]
      else if arg.startsWith "-" then arg :: mark args
      else arg :: args
  let s := { s with args := mark s.args }
  s.withOptions table 1 fun o =>
    let bad (word : String) : Ending :=
      if word.toLower.startsWith "nan" then
        s.misuse 1 ("invalid 'not-a-number' argument: " ++ Quoting.word word)
      else s.misuse 1 ("invalid floating point argument: " ++ Quoting.word word)
    let range (first step last : Numeral) : Ending :=
      let places := max first.places step.places
      let unit := max places last.places
      let a := first.scaled unit
      let d := step.scaled unit
      let count := (Int.fdiv (last.scaled unit - a) d + 1).toNat
      let numbers := (List.range count).map fun i : Nat => a + d * i
      let shown (n : Int) : Int := n / Nat.pow 10 (unit - places)
      let texts : Except String (List String) :=
        match o.value? "f" with
        | some format => do
          let (before, d, after) ← numberFormat? format
          let width := match d.width with
            | .known n => n
            | .word => 0
          let precision := d.precision.map fun
            | .known n => n
            | .word => 0
          return numbers.map fun n =>
            String.ofList (before ++ Format.writeReal d width precision
              ⟨n < 0, .ok (n.natAbs, Nat.pow 10 unit)⟩ ++ after)
        | none =>
          let widthOf (x : Numeral) : Nat := x.width - (if x.places = 0 then 0 else x.places + 1) +
            (if places = 0 then 0 else places + 1)
          let width := max (widthOf first) (widthOf last)
          return numbers.map fun n =>
            let text := pointedNumber places (shown n)
            if o.has "w" then
              let digits := if n < 0 then text.toList.tail else text.toList
              let sign := if n < 0 then ['-'] else []
              String.ofList (sign ++ List.replicate (width - text.length) '0' ++ digits)
            else text
      match texts with
      | .error e => s.fail 1 e
      | .ok texts =>
        let separator := (o.value? "s").getD "\n"
        s.print (if texts.isEmpty then "" else separator.intercalate texts ++ "\n")
    match o.words, o.words.map Numeral.ofText? with
    | [], _ => s.misuse 1 "missing operand"
    | _ :: _ :: _ :: word :: _, _ => s.misuse 1 ("extra operand " ++ Quoting.word word)
    | words, numbers =>
      match (words.zip numbers).find? fun x => x.2.isNone with
      | some (word, _) => bad word
      | none =>
        if o.has "w" && o.has "f" then
          s.misuse 1 "format string may not be specified when printing equal width strings"
        else
          let one : Numeral := ⟨1, 0, 1⟩
          match words, numbers.filterMap id with
          | _, [last] => range one one last
          | _, [first, last] => range first one last
          | words, [first, step, last] =>
            if step.value = 0 then
              s.misuse 1 ("invalid Zero increment value: " ++ Quoting.word (words.getD 1 ""))
            else range first step last
          | _, _ => s.finish 1

end Gutter.Shell.Tool
