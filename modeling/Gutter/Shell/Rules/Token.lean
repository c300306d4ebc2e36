import Gutter.Shell.Rules.Pattern
import Gutter.Shell.Rules.Script
import Gutter.Shell.Rules.Value

/-!
# Tokens of scripts of rules

What scripts of rules are written with. What a sign is can depend on what stands before it: a slash
starts a regular expression where no value can be divided, and in a statement that prints, a sign for
"greater" tells where the output goes.
-/

namespace Gutter.Shell.Rules

/-- What a script is written with. -/
inductive Token where
  | finish
  | newline
  | semicolon
  | closing
  | sign (s : String)
  | output (d : Direction)
  | input
  | number (x : Float) (spelling : String)
  | text (s : String)
  | regex (s : String)
  | name (s : String)
  | special (s : String)
  | function (s : String)
  | builtin (s : String)
  | keyword (s : String)
  | field (n : Nat)
  | unexpected (c : Char)
  deriving Inhabited

namespace Token

/-- What a token is called in a complaint. -/
def shown : Token → String
  | finish => "end of file"
  | newline => "end of line"
  | semicolon => ";"
  | closing => "\x7d"
  | sign s | text s | name s | function s | builtin s | keyword s => s
  | regex s => "/" ++ s ++ "/"
  | output .command => "|"
  | output _ => ">"
  | input => "<"
  | number _ spelling => spelling
  | special _ | field _ => "$"
  | unexpected c => c.toString

def isSign (s : String) : Token → Bool
  | sign t => s = t
  | _ => false

def isKeyword (s : String) : Token → Bool
  | keyword t => s = t
  | _ => false

def isSeparator : Token → Bool
  | newline | semicolon | closing => true
  | _ => false

def canBeDivided : Token → Bool
  | number .. | text _ | name _ | regex _ | field _ | special _ => true
  | sign s => s = ")" || s = "]"
  | keyword s => s = "getline"
  | _ => false

def keywords : List String :=
  ["BEGIN", "END", "if", "else", "while", "do", "for", "in", "break", "continue", "next",
    "nextfile", "exit", "return", "delete", "print", "printf", "getline", "function"]

def forms : List String := ["length", "split", "match", "sub", "gsub"]

def specials : List String := ["NF", "RS", "FS", "CONVFMT", "OFMT"]

end Token

/-- How far a script is split into tokens. -/
structure Scanner where
  rest : List Char
  file? : Option String := none
  line : Nat := 1
  tokenLine : Nat := 1
  last : Token := .newline
  parens : Nat := 0
  braces : Nat := 0
  isPrinting : Bool := false
  isReading : Bool := false
  functions : List String := []
  complaints : List String := []
  isHopeless : Bool := false

namespace Scanner

def complaintLimit : Nat := 5

def add (complaint : String) (s : Scanner) : Scanner :=
  let complaints := complaint :: s.complaints
  { s with complaints, isHopeless := s.isHopeless || complaintLimit ≤ complaints.length }

def complain (text : String) (s : Scanner) : Scanner :=
  let place := (s.file?.map (· ++ ": ")).getD ""
  s.add (place ++ "line " ++ toString s.tokenLine ++ ": " ++ text)

def giveUp (text : String) (s : Scanner) : Scanner := { s.complain text with isHopeless := true }

def complainOf (c : Char) (s : Scanner) : Scanner :=
  let digits := Nat.toDigits 16 c.toNat
  let padded := String.ofList (List.replicate (2 - digits.length) '0' ++ digits)
  let shown := if ' ' < c && c < '\x7F' then "'" ++ c.toString ++ "'" else "0x" ++ padded
  s.add (toString s.tokenLine ++ ": unexpected character " ++ shown)

def isBlank (c : Char) : Bool := c ∈ [' ', '\t', '\x0B', '\x0C', '\r']

/-- Leaves out line breaks, blanks and comments. -/
def skipLines : (fuel : Nat) → Scanner → Scanner
  | 0, s => s
  | fuel + 1, s =>
    match s.rest with
    | '\n' :: rest => skipLines fuel { s with rest, line := s.line + 1 }
    | '#' :: rest => skipLines fuel { s with rest := rest.dropWhile (· ≠ '\n') }
    | '\\' :: rest =>
      match rest.dropWhile isBlank with
      | '\n' :: rest => skipLines fuel { s with rest, line := s.line + 1 }
      | rest => { s with rest }.complainOf '\\'
    | c :: rest => if isBlank c then skipLines fuel { s with rest } else s
    | [] => s

def skip (s : Scanner) : Scanner := skipLines (s.rest.length + 1) s

def skipSemicolon (s : Scanner) : Scanner :=
  match s.rest.dropWhile isBlank with
  | ';' :: rest => { s with rest }
  | rest => { s with rest }

/-- The text of some characters with escapes replaced; a backslash stays in front of what is none. -/
def unescape : (fuel : Nat) → List Char → List Char
  | 0, cs => cs
  | _, [] => []
  | fuel + 1, '\\' :: cs =>
    match cs with
    | '"' :: rest => '"' :: unescape fuel rest
    | '\\' :: rest => '\\' :: unescape fuel rest
    | c :: rest =>
      let (e, after) := Pattern.escape cs
      if e ≠ c || after.length + 1 ≠ cs.length then e :: unescape fuel after
      else '\\' :: c :: unescape fuel rest
    | [] => ['\\']
  | fuel + 1, c :: cs => c :: unescape fuel cs

/-- The characters up to the quote that ends a text, and what follows it. Lines that a backslash joins
are one line. -/
def splitText : (fuel : Nat) → List Char → List Char × Nat × Option (List Char)
  | 0, _ => ([], 0, none)
  | fuel + 1, cs =>
    match cs with
    | [] | '\n' :: _ => ([], 0, none)
    | '"' :: rest => ([], 0, some rest)
    | '\\' :: '\n' :: rest =>
      let (text, lines, rest?) := splitText fuel rest
      (text, lines + 1, rest?)
    | '\\' :: c :: rest =>
      let (text, lines, rest?) := splitText fuel rest
      ('\\' :: c :: text, lines, rest?)
    | c :: rest =>
      let (text, lines, rest?) := splitText fuel rest
      (c :: text, lines, rest?)

/-- What a character of a regular expression is part of. -/
inductive Enclosure where
  | none
  | brackets
  | className
  deriving DecidableEq

/-- The characters up to the slash that ends a regular expression, and what follows it. A slash in
brackets does not end it. -/
def splitRegex : (fuel : Nat) → Enclosure → List Char → List Char × Option (List Char)
  | 0, _, _ => ([], none)
  | fuel + 1, enclosure, cs =>
    let go (enclosure : Enclosure) (front rest : List Char) : List Char × Option (List Char) :=
      let (text, rest?) := splitRegex fuel enclosure rest
      (front ++ text, rest?)
    match cs, enclosure with
    | [], _ | '\n' :: _, _ => ([], none)
    | '/' :: rest, .none => ([], some rest)
    | '\\' :: '/' :: rest, _ => go enclosure ['/'] rest
    | '\\' :: c :: rest, _ => if c = '\n' then (['\\'], none) else go enclosure ['\\', c] rest
    | ':' :: ']' :: rest, .className => go .brackets [':', ']'] rest
    | '[' :: '^' :: ']' :: rest, .none => go .brackets ['[', '^', ']'] rest
    | '[' :: ']' :: rest, .none => go .brackets ['[', ']'] rest
    | '[' :: rest, .none => go .brackets ['['] rest
    | '[' :: ':' :: rest, .brackets => go .className ['[', ':'] rest
    | ']' :: rest, .brackets => go .none [']'] rest
    | c :: rest, _ => go enclosure [c] rest

def numberLength (cs : List Char) : Nat :=
  let (_, _, n) := Format.readDigits 10 cs
  let (_, m) := Format.readPower ['e', 'E'] (cs.drop n)
  n + m

def signs : List String :=
  ["==", "!=", "<=", ">=", "!~", "++", "--", "+=", "-=", "*=", "/=", "%=", "^=", "||", "&&", "=",
    "<", ">", "~", "+", "-", "*", "/", "%", "^", "!", "(", ")", "[", "]", "?", ":", ",", "|",
    "\x7b"]

def give (t : Token) (s : Scanner) : Token × Scanner := (t, { s with last := t })

/-- The token that a sign is. -/
def giveSign (sign : String) (s : Scanner) : Token × Scanner :=
  let canPrint : Bool := s.isPrinting && s.parens = 0
  match sign with
  | ">" | ">=" =>
    if canPrint then
      let s := { s with isPrinting := false }
      let s := if sign = ">=" then { s with rest := '=' :: s.rest } else s
      match s.rest with
      | '>' :: rest => { s with rest }.give (.output .append)
      | _ => s.give (.output .file)
    else s.give (.sign sign)
  | "|" =>
    if canPrint then { s with isPrinting := false }.give (.output .command)
    else s.give (.sign sign)
  | "<" => if s.isReading then { s with isReading := false }.give .input else s.give (.sign sign)
  | "(" => { s with parens := s.parens + 1 }.give (.sign sign)
  | ")" => { s with parens := s.parens - 1 }.give (.sign sign)
  | "," | "&&" | "||" => s.skip.give (.sign sign)
  | "\x7b" => { s with braces := s.braces + 1 }.skip.give (.sign sign)
  | _ => s.give (.sign sign)

def giveWord (word : List Char) (s : Scanner) : Token × Scanner :=
  let name := String.ofList word
  if name ∈ Token.keywords then s.give (.keyword name)
  else if name ∈ Token.specials then s.give (.special name)
  else if name ∈ Token.forms || Function.table.any (·.1 = name) then s.give (.builtin name)
  else if name ∈ s.functions then s.give (.function name)
  else if s.rest.head? = some '(' then
    { s with functions := name :: s.functions }.give (.function name)
  else s.give (.name name)

/-- The number at the front of the text. -/
def giveNumber (s : Scanner) : Token × Scanner :=
  let n := numberLength s.rest
  let spelling := s.rest.take n
  let (real, complaint) := Format.real false spelling
  let x := Number.ofReal real
  let isTiny : Bool := x < 2.2250738585072014e-308 && spelling.any (· ∈ "123456789".toList) &&
    !(spelling.takeWhile (· ≠ 'e')).all (· ∈ ['0', '.'])
  let s := { s with rest := s.rest.drop n }
  let s := if complaint.isSome || isTiny then
      s.complain (String.ofList spelling ++ " : decimal overflow")
    else s
  s.give (.number x (String.ofList spelling))

/-- The next token. -/
def next : (fuel : Nat) → Scanner → Token × Scanner
  | 0, s => s.give .finish
  | fuel + 1, s =>
    let s := { s with tokenLine := s.line }
    match s.rest with
    | [] => s.give .finish
    | '\n' :: rest => { s with rest, line := s.line + 1 }.skip.give .newline
    | '#' :: rest => next fuel { s with rest := rest.dropWhile (· ≠ '\n') }
    | ';' :: rest => { s with rest }.skip.give .semicolon
    | '}' :: rest =>
      if s.braces = 0 then next fuel ({ s with rest }.complain "extra '\x7d'").skipSemicolon
      else if s.last.isSeparator || s.last.isSign "\x7d" then
        let s := { s with rest, braces := s.braces - 1 }
        (if s.braces = 0 then s.skipSemicolon else s).skip.give (.sign "\x7d")
      else s.give .closing
    | '\\' :: rest =>
      match rest.dropWhile isBlank with
      | '\n' :: rest => next fuel { s with rest, line := s.line + 1 }
      | rest => { s with rest }.give (.unexpected '\\')
    | ')' :: rest =>
      if s.parens = 0 then next fuel ({ s with rest }.complain "extra ')'")
      else { s with rest }.giveSign ")"
    | '"' :: rest =>
      let (text, lines, rest?) := splitText (rest.length + 1) rest
      match rest? with
      | none =>
        let start := String.ofList (text.take 10)
        ({ s with rest := [] }.giveUp ("runaway string constant \"" ++ start ++ " ...")).give .finish
      | some rest =>
        let text := String.ofList (unescape (text.length + 1) text)
        { s with rest, line := s.line + lines }.give (.text text)
    | '/' :: rest =>
      if s.last.canBeDivided then
        match rest with
        | '=' :: rest => { s with rest }.give (.sign "/=")
        | rest => { s with rest }.give (.sign "/")
      else
        let isStep := s.last.isSign "++" || s.last.isSign "--"
        let rest := if isStep && rest.head? ≠ some '=' then rest.drop 1 else rest
        let (text, rest?) := splitRegex (rest.length + 1) .none rest
        match rest? with
        | none =>
          let start := String.ofList (text.take 10)
          let s := { s with rest := [] }
          (s.giveUp ("runaway regular expression /" ++ start ++ " ...")).give .finish
        | some rest => { s with rest }.give (.regex (String.ofList text))
    | '$' :: rest =>
      let rest := rest.dropWhile isBlank
      if rest.head?.any fun c => c.isDigit || c = '.' then
        let n := numberLength rest
        let x := Number.ofText (String.ofList (rest.take n))
        { s with rest := rest.drop n }.give (.field (Number.toInt32 x).toNat)
      else { s with rest }.give (.sign "$")
    | c :: rest =>
      if isBlank c then next fuel { s with rest }
      else if c.isDigit then s.giveNumber
      else if c = '.' then
        if rest.head?.any Char.isDigit then s.giveNumber
        else { s with rest := rest.drop 1 }.give (.unexpected '.')
      else if c.isAlpha || c = '_' then
        let word := s.rest.takeWhile fun c => c.isAlphanum || c = '_'
        { s with rest := s.rest.drop word.length }.giveWord word
      else
        match signs.find? fun sign => sign.toList.isPrefixOf s.rest with
        | some sign => { s with rest := s.rest.drop sign.length }.giveSign sign
        | none => { s with rest }.give (.unexpected c)

end Scanner

end Gutter.Shell.Rules
