import Gutter.Shell.Script

/-!
# Tokens of scripts

A text is read token by token. A token is read once more if it does not belong to what is being
read. Words can hold scripts, so what reads a word is given what reads a script.
-/

namespace Gutter.Shell

/-- What a text consists of. -/
inductive Token where
  | word (pieces : Word) (lead : String) (isBare : Bool)
  | redirection (stream : Nat) (mode : Mode)
  | document (stream : Nat) (indented : Bool)
  | sign (s : String)
  | newline
  | finish

namespace Token

def reservedWords : List String :=
  ["!", "\x7b", "\x7d", "if", "then", "else", "elif", "fi", "for", "in", "while", "until", "do",
    "done", "case", "esac"]

def closers : List String := ["\x7d", "then", "else", "elif", "fi", "do", "done", "esac"]

def reserved? : Token → Option String
  | .word _ lead true => if lead ∈ reservedWords then some lead else none
  | _ => none

def isReserved (t : Token) (s : String) : Bool := t.reserved? = some s

def isSign (t : Token) (s : String) : Bool :=
  match t with
  | .sign x => x = s
  | _ => false

def endsList (t : Token) : Bool :=
  match t with
  | .finish => true
  | t => t.isSign ")" || t.isSign ";;" || t.reserved?.any (· ∈ closers)

def asWord : Token → Token
  | .word pieces lead _ => .word pieces lead false
  | t => t

def title (t : Token) : String :=
  match t with
  | .word .. =>
    match t.reserved? with
    | some s => "\"" ++ s ++ "\""
    | none => "word"
  | .redirection .. | .document .. => "redirection"
  | .sign s => "\"" ++ s ++ "\""
  | .newline => "newline"
  | .finish => "end of file"

end Token

/-- A place in a text. -/
structure Scanner where
  rest : List Char
  line : Nat := 1
  held : Option Token := none
  below : Nat := 0
  aliases : List (String × String) := []
  running : List (String × Nat) := []

abbrev Reader := StateT Scanner (Except (Nat × Fault))

namespace Reader

def fail {α : Type} (f : Fault) : Reader α := fun s => .error (s.line, f)

/-- Gives up because of a token; perhaps another one is missing. -/
def refuse {α : Type} (t : Token) (wanted : Option String) : Reader α :=
  fail (.unexpected t.title wanted)

def hold (t : Token) : Reader Unit := modify fun s => { s with held := some t }

def rest : Reader (List Char) := return (← get).rest

def skip (n : Nat) : Reader Unit :=
  modify fun s => { s with rest := s.rest.drop n, line := s.line + (s.rest.take n).count '\n' }

/-- Puts the text of an alias in place of a word that has just been read, unless the word is in that
text itself. The answer tells whether there is such an alias. -/
def openAlias (word : String) : Reader Bool := fun s =>
  let size := s.rest.length
  let running := s.running.filter fun x => x.2 ≤ size
  match s.aliases.lookup word with
  | none => .ok (false, s)
  | some text =>
    if running.any (·.1 = word) then .ok (false, s)
    else .ok (true, { s with rest := text.toList ++ s.rest, running := (word, size) :: running })

/-- Whether the text of an alias with a blank at its end ends between two places, which are given by
how much there is to read behind them. -/
def isBehindBlank (before after : Nat) : Reader Bool := fun s =>
  let endsBlank (name : String) : Bool :=
    (s.aliases.lookup name).any fun text => text.endsWith " " || text.endsWith "\t"
  .ok (s.running.any fun x => endsBlank x.1 && x.2 < before && after ≤ x.2, s)

def within {α : Type} (text : List Char) (line : Nat) (r : Reader α) : Reader α := fun s =>
  match r { rest := text, line, aliases := s.aliases } with
  | .ok (a, _) => .ok (a, s)
  | .error e => .error e

end Reader

/-! ## Characters -/

def endsWord (c : Char) : Bool := c ∈ [' ', '\t', '\n', ';', '&', '|', '(', ')', '<', '>']

def isNameChar (c : Char) : Bool := c.isAlphanum || c = '_'

def isName (s : String) : Bool :=
  match s.toList with
  | [] => false
  | c :: cs => !c.isDigit && (c :: cs).all isNameChar

def isSpecialParameter (c : Char) : Bool := c ∈ ['?', '#', '$', '@', '*', '!', '-']

/-- What stands around the text of a word. -/
inductive Context where
  | bare
  | quotes
  | document
  | braces (quoted : Bool)
  | arithmetic
  deriving DecidableEq, Repr

namespace Context

def isQuoted : Context → Bool
  | .bare | .braces false => false
  | _ => true

def isPlain (context : Context) (c : Char) : Bool :=
  c ∉ ['$', '`', '\\'] &&
    match context with
    | .bare => !endsWord c && c ≠ '\'' && c ≠ '"'
    | .quotes => c ≠ '"'
    | .document => true
    | .braces quoted => c ≠ '}' && c ≠ '"' && (quoted || c ≠ '\'')
    | .arithmetic => c ∉ ['(', ')']

def protects (context : Context) (c : Char) : Bool :=
  match context with
  | .bare | .braces false => true
  | .document => c ∈ ['$', '`', '\\']
  | .quotes | .arithmetic => c ∈ ['$', '`', '"', '\\']
  | .braces true => c ∈ ['$', '`', '"', '\\', '}']

def missing? : Context → Option Fault
  | .bare | .document => none
  | .quotes | .braces true => some .openQuote
  | .braces false => some .openBrace
  | .arithmetic => some .openArithmetic

end Context

/-! ## Words -/

/-- The text before the next back quote without the backslashes that protect signs in it, and how
many characters it takes. -/
def splitBackQuote (quoted : Bool) : List Char → Option (List Char × Nat)
  | [] => none
  | '`' :: _ => some ([], 0)
  | '\\' :: c :: cs =>
    (splitBackQuote quoted cs).map fun x =>
      (if c ∈ ['`', '\\', '$'] || (quoted && c = '"') then c :: x.1 else '\\' :: c :: x.1,
        x.2 + 2)
  | c :: cs => (splitBackQuote quoted cs).map fun x => (c :: x.1, x.2 + 1)

namespace Word

def addText (s : String) (quoted : Bool) : Word → Word
  | .text t q :: ps =>
    if q = quoted then .text (t ++ s) q :: ps else .text s quoted :: .text t q :: ps
  | ps => .text s quoted :: ps

def lead : Word → String
  | .text s false :: _ => s
  | _ => ""

def isBare : Word → Bool
  | [.text _ false] => true
  | _ => false

/-- What quotes add to a word. All parameters in quotes are as many fields as there are, even none;
anything else in quotes is a field, even if it is empty. -/
def quoted : Word → Word
  | [.parameter "@" .value q] => [.parameter "@" .value q]
  | ps => .quotes :: ps

end Word

/-- A text without broken lines at its front, where a parameter or a script is named, and how many
were broken. -/
def joinLines : List Char → List Char × Nat
  | '\\' :: '\n' :: cs =>
    let (cs, n) := joinLines cs
    (cs, n + 1)
  | c :: cs =>
    if isNameChar c || c ∈ ['\x7b', '(', '#', ':', '%'] then
      let (cs, n) := joinLines cs
      (c :: cs, n)
    else (c :: cs, 0)
  | [] => ([], 0)

def Reader.join : Reader Unit :=
  modify fun s =>
    match s.rest with
    | '$' :: cs =>
      let (cs, n) := joinLines cs
      { s with rest := '$' :: cs, line := s.line + n }
    | _ => s

/-- The parameter that stands after a dollar sign and an opening brace, how many characters its name
takes, and whether its length is asked for. -/
def bracedName (cs : List Char) : Option (String × Nat × Bool) :=
  let name (cs : List Char) : List Char :=
    match cs with
    | c :: _ =>
      if c.isDigit then cs.takeWhile Char.isDigit
      else if isNameChar c then cs.takeWhile isNameChar else []
    | [] => []
  match name cs, cs with
  | [], '#' :: rest =>
    match name rest, rest with
    | [], c :: '}' :: _ =>
      if c = '}' then some ("#", 1, false)
      else if isSpecialParameter c then some (c.toString, 2, true) else none
    | [], _ => some ("#", 1, false)
    | n, _ => some (String.ofList n, n.length + 1, true)
  | [], c :: _ => if isSpecialParameter c then some (c.toString, 1, false) else none
  | [], [] => none
  | n, _ => some (String.ofList n, n.length, false)

mutual

/-- The pieces of a word up to its end, where `read` holds those read so far, the last one first,
and `depth` is the number of open parentheses. -/
def readPieces (script : (inParentheses : Bool) → Reader Script) :
    (fuel : Nat) → Context → (depth : Nat) → (read : Word) → Reader Word
  | 0, _, _, _ => Reader.fail .openQuote
  | fuel + 1, context, depth, read => do
    let cs ← Reader.rest
    let plain := cs.takeWhile context.isPlain
    let add (s : String) (n : Nat) (depth : Nat) : Reader Word := do
      Reader.skip n
      readPieces script fuel context depth (Word.addText s context.isQuoted read)
    if !plain.isEmpty then add (String.ofList plain) plain.length depth
    else
      match cs with
      | [] =>
        match context.missing? with
        | some f => Reader.fail f
        | none => return read.reverse
      | '\\' :: '\n' :: _ => do
        Reader.skip 2
        readPieces script fuel context depth read
      | '\\' :: c :: _ =>
        if context.protects c then do
          Reader.skip 2
          readPieces script fuel context depth (Word.addText c.toString true read)
        else add "\\" 1 depth
      | ['\\'] => do
        Reader.skip 1
        readPieces script fuel context depth (Word.addText "\\" true read)
      | '`' :: _ | '$' :: _ => do
        let piece ← readExpansion script fuel context.isQuoted
        let read := match piece with
          | .text s q => Word.addText s q read
          | p => p :: read
        readPieces script fuel context depth read
      | c :: after =>
        match context, c with
        | .bare, '\'' | .braces false, '\'' =>
          let inside := after.takeWhile (· ≠ '\'')
          if inside.length = after.length then do
            Reader.skip cs.length
            Reader.fail .openQuote
          else do
            Reader.skip (inside.length + 2)
            readPieces script fuel context depth
              (Word.addText (String.ofList inside) true (.quotes :: read))
        | .bare, '"' | .braces false, '"' => do
          Reader.skip 1
          let inside ← readPieces script fuel .quotes 0 []
          readPieces script fuel context depth ((Word.quoted inside).reverse ++ read)
        | .quotes, '"' | .braces _, '}' => do
          Reader.skip 1
          return read.reverse
        | .braces true, '"' => do
          Reader.skip 1
          readPieces script fuel context depth read
        | .arithmetic, '(' => add "(" 1 (depth + 1)
        | .arithmetic, _ =>
          match depth, after with
          | 0, ')' :: _ => do
            Reader.skip 2
            return read.reverse
          | depth, _ => add ")" 1 (depth - 1)
        | _, _ => return read.reverse

/-- The piece that a dollar sign or a back quote starts. -/
def readExpansion (script : (inParentheses : Bool) → Reader Script) :
    (fuel : Nat) → (quoted : Bool) → Reader Piece
  | 0, _ => Reader.fail .openQuote
  | fuel + 1, quoted => do
    Reader.join
    match ← Reader.rest with
    | '$' :: '(' :: '(' :: _ =>
      Reader.skip 3
      return .arithmetic (← readPieces script fuel .arithmetic 0 []) quoted
    | '$' :: '(' :: _ =>
      Reader.skip 2
      return .output (← script true) quoted
    | '$' :: '{' :: cs =>
      Reader.skip 2
      let unknown (n : Nat) : Reader Piece := do
        Reader.skip n
        let _ ← readPieces script fuel (.braces quoted) 0 []
        return .parameter "" .unknown quoted
      match bracedName cs with
      | none => unknown (if cs.head? = some '\x7d' then 0 else 1)
      | some (name, n, wantsLength) =>
        Reader.skip n
        let instead (how : Instead) (nonEmpty : Bool) (n : Nat) : Reader Piece := do
          Reader.skip n
          let word ← readPieces script fuel (.braces quoted) 0 []
          return .parameter name (.instead how nonEmpty word) quoted
        let trim (atEnd longest : Bool) (n : Nat) : Reader Piece := do
          Reader.skip n
          let pattern ← readPieces script fuel (.braces false) 0 []
          return .parameter name (.trim atEnd longest pattern) quoted
        let how? (c : Char) : Option Instead := match c with
          | '-' => some .fallback
          | '+' => some .substitute
          | '=' => some .assign
          | '?' => some .complain
          | _ => none
        match wantsLength, cs.drop n with
        | wantsLength, '}' :: _ =>
          Reader.skip 1
          return .parameter name (if wantsLength then .length else .value) quoted
        | true, _ => unknown 0
        | false, '%' :: '%' :: _ => trim true true 2
        | false, '%' :: _ => trim true false 1
        | false, '#' :: '#' :: _ => trim false true 2
        | false, '#' :: _ => trim false false 1
        | false, ':' :: c :: _ =>
          match how? c with
          | some how => instead how true 2
          | none => unknown 2
        | false, c :: _ =>
          match how? c with
          | some how => instead how false 1
          | none => unknown 1
        | false, [] => unknown 0
    | '$' :: c :: cs =>
      if isSpecialParameter c || c.isDigit then
        Reader.skip 2
        return .parameter c.toString .value quoted
      else if isNameChar c then
        let name := (c :: cs).takeWhile isNameChar
        Reader.skip (name.length + 1)
        return .parameter (String.ofList name) .value quoted
      else
        Reader.skip 1
        return .text "$" quoted
    | '`' :: cs =>
      match splitBackQuote quoted cs with
      | none =>
        Reader.skip (cs.length + 1)
        Reader.fail .openBackQuote
      | some (text, n) =>
        let body ← Reader.within text 1 (script false)
        Reader.skip (n + 2)
        return .output body quoted
    | _ =>
      Reader.skip 1
      return .text "$" quoted

end

/-! ## Documents -/

/-- The end of a document that stands at the front of a text, whether quotes stand in it, and how
many characters it takes; `none` if a quote is left open. -/
def readDelimiter : (quote : Option Char) → List Char → Option (List Char × Bool × Nat)
  | none, [] => some ([], false, 0)
  | some _, [] => none
  | some q, c :: cs =>
    if c = q then (readDelimiter none cs).map fun (s, _, n) => (s, true, n + 1)
    else (readDelimiter (some q) cs).map fun (s, isQuoted, n) => (c :: s, isQuoted, n + 1)
  | none, '\\' :: c :: cs => (readDelimiter none cs).map fun (s, _, n) => (c :: s, true, n + 2)
  | none, c :: cs =>
    if endsWord c then some ([], false, 0)
    else if c = '\'' || c = '"' then
      (readDelimiter (some c) cs).map fun (s, _, n) => (s, true, n + 1)
    else (readDelimiter none cs).map fun (s, isQuoted, n) => (c :: s, isQuoted, n + 1)

/-- How many characters a text has up to the end of its first line, where line breaks within quotes
do not count. -/
def lineLength : (quote : Option Char) → List Char → Nat
  | _, [] => 0
  | none, '\n' :: _ => 1
  | some '\'', c :: cs => lineLength (if c = '\'' then none else some '\'') cs + 1
  | quote, '\\' :: _ :: cs => lineLength quote cs + 2
  | some q, c :: cs => lineLength (if c = q then none else some q) cs + 1
  | none, c :: cs => lineLength (if c = '\'' || c = '"' then some c else none) cs + 1

def isBroken (line : List Char) : Bool := (line.reverse.takeWhile (· = '\\')).length % 2 = 1

/-- The lines of a document, what follows it, and how many lines it takes. `joins` says that lines
can be broken, and `goesOn` that the next line belongs to a broken one. -/
def splitDocument (indented joins : Bool) (delimiter : List Char) :
    (fuel : Nat) → (goesOn : Bool) → List Char → List Char × List Char × Nat
  | 0, _, cs => ([], cs, 0)
  | _, _, [] => ([], [], 0)
  | fuel + 1, goesOn, cs =>
    let whole := cs.takeWhile (· ≠ '\n')
    let after := cs.drop whole.length
    let line := if indented && !goesOn then whole.dropWhile (· = '\t') else whole
    if line = delimiter && !goesOn then ([], after.drop 1, 1)
    else
      let (text, rest, n) :=
        splitDocument indented joins delimiter fuel (joins && isBroken line) (after.drop 1)
      (line ++ after.take 1 ++ text, rest, n + 1)

/-- The document below the line that starts here with its delimiter. -/
def readDocument (script : (inParentheses : Bool) → Reader Script) (fuel : Nat)
    (indented : Bool) : Reader Word := do
  match readDelimiter none (← Reader.rest) with
  | none =>
    Reader.skip (← Reader.rest).length
    Reader.fail .openQuote
  | some (delimiter, isQuoted, n) =>
    Reader.skip n
    let s ← get
    let (line, below) := s.rest.splitAt (lineLength none s.rest)
    let (text, rest, lines) :=
      splitDocument indented (!isQuoted) delimiter (below.length + 1) false below
    set { s with rest := line ++ rest, below := s.below + lines }
    if isQuoted then return [.text (String.ofList text) true]
    else Reader.within text (s.line + 1) (readPieces script fuel .document 0 [])

/-! ## Tokens -/

def afterBlanks : (lines : Nat) → List Char → List Char × Nat
  | n, ' ' :: cs => afterBlanks n cs
  | n, '\t' :: cs => afterBlanks n cs
  | n, '\\' :: '\n' :: cs => afterBlanks (n + 1) cs
  | n, '#' :: cs => (cs.dropWhile (· ≠ '\n'), n)
  | n, cs => (cs, n)

def sign? : List Char → Option String
  | '&' :: '&' :: _ => some "&&"
  | '|' :: '|' :: _ => some "||"
  | ';' :: ';' :: _ => some ";;"
  | ';' :: _ => some ";"
  | '&' :: _ => some "&"
  | '|' :: _ => some "|"
  | '(' :: _ => some "("
  | ')' :: _ => some ")"
  | _ => none

/-- The redirection at the front of a text, perhaps of a given stream, and how many characters it
takes. -/
def redirection? (stream : Option Nat) : List Char → Option (Token × Nat)
  | '>' :: '>' :: _ => some (.redirection (stream.getD 1) .append, 2)
  | '>' :: '&' :: _ => some (.redirection (stream.getD 1) .duplicate, 2)
  | '>' :: '|' :: _ => some (.redirection (stream.getD 1) .overwrite, 2)
  | '>' :: _ => some (.redirection (stream.getD 1) .write, 1)
  | '<' :: '<' :: '-' :: _ => some (.document (stream.getD 0) true, 3)
  | '<' :: '<' :: _ => some (.document (stream.getD 0) false, 2)
  | '<' :: '&' :: _ => some (.redirection (stream.getD 0) .duplicate, 2)
  | '<' :: '>' :: _ => some (.redirection (stream.getD 0) .readWrite, 2)
  | '<' :: _ => some (.redirection (stream.getD 0) .read, 1)
  | _ => none

/-- The next token. -/
def readToken (script : (inParentheses : Bool) → Reader Script) (fuel : Nat) : Reader Token := do
  let s ← get
  match s.held with
  | some t =>
    set { s with held := none }
    return t
  | none =>
    let (cs, n) := afterBlanks 0 s.rest
    set { s with rest := cs, line := s.line + n }
    match cs, sign? cs, redirection? none cs with
    | [], _, _ => return .finish
    | '\n' :: cs, _, _ =>
      set { s with rest := cs, line := s.line + n + 1 + s.below, below := 0 }
      return .newline
    | _, some x, _ =>
      Reader.skip x.length
      return .sign x
    | _, none, some (t, n) =>
      Reader.skip n
      return t
    | _, none, none =>
      let w ← readPieces script fuel .bare 0 []
      let word : Token := .word w w.lead w.isBare
      match w with
      | [.text d false] =>
        match d.toNat?, redirection? d.toNat? (← Reader.rest) with
        | some _, some (t, n) =>
          if d.length = 1 then
            Reader.skip n
            return t
          else return word
        | _, _ => return word
      | _ => return word

end Gutter.Shell
