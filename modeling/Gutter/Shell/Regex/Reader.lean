import Gutter.Shell.Regex

/-!
# Reading regular expressions

The written forms of regular expressions: a basic one, in which most signs need a backslash, and an
extended one. Texts are bytes, each shown as the character with its number. Programs differ in what
they make of a repetition with nothing to repeat, so that is part of a dialect.
-/

namespace Gutter.Shell

namespace Regex

/-- Why a text is no regular expression. -/
inductive Fault where
  | noSet
  | className
  | collation
  | trailingBackslash
  | reference
  | openBracket
  | openGroup
  | closedGroup
  | openBrace
  | interval
  | rangeEnd
  | nothingToRepeat
  | tooBig
  | classSyntax
  deriving DecidableEq, Repr

/-- The wording of a fault. -/
def Fault.message : Fault → String
  | .noSet => "Invalid regular expression"
  | .className => "Invalid character class name"
  | .collation => "Invalid collation character"
  | .trailingBackslash => "Trailing backslash"
  | .reference => "Invalid back reference"
  | .openBracket => "Unmatched [, [^, [:, [., or [="
  | .openGroup => "Unmatched ( or \\("
  | .closedGroup => "Unmatched ) or \\)"
  | .openBrace => "Unmatched \\\x7b"
  | .interval => "Invalid content of \\\x7b\\\x7d"
  | .rangeEnd => "Invalid range end"
  | .nothingToRepeat => "Invalid preceding regular expression"
  | .tooBig => "Regular expression too big"
  | .classSyntax => "character class syntax is [[:space:]], not [:space:]"

/-- What a sign of repetition is that has nothing to repeat. -/
inductive Stray where
  | literal
  | refused
  | skipped
  deriving DecidableEq, Repr

/-- A written form of regular expressions. -/
structure Dialect where
  isExtended : Bool := false
  stray : Stray := .literal
  isStrict : Bool := false
  allowsClose : Bool := false
  allowsBrace : Bool := false
  checksClasses : Bool := true
  allowsBackwards : Bool := false
  dotTakesZero : Bool := false
  ignoresCase : Bool := false
  hasLines : Bool := false

/-! ## Sets -/

/-- The bytes of a class of characters. -/
def classRanges? (name : String) : Option (List (UInt8 × UInt8)) :=
  match name with
  | "alpha" => some [(0x41, 0x5A), (0x61, 0x7A)]
  | "digit" => some [(0x30, 0x39)]
  | "alnum" => some [(0x30, 0x39), (0x41, 0x5A), (0x61, 0x7A)]
  | "upper" => some [(0x41, 0x5A)]
  | "lower" => some [(0x61, 0x7A)]
  | "space" => some [(0x09, 0x0D), (0x20, 0x20)]
  | "blank" => some [(0x09, 0x09), (0x20, 0x20)]
  | "punct" => some [(0x21, 0x2F), (0x3A, 0x40), (0x5B, 0x60), (0x7B, 0x7E)]
  | "print" => some [(0x20, 0x7E)]
  | "graph" => some [(0x21, 0x7E)]
  | "cntrl" => some [(0x00, 0x1F), (0x7F, 0x7F)]
  | "xdigit" => some [(0x30, 0x39), (0x41, 0x46), (0x61, 0x66)]
  | _ => none

def byteOf (c : Char) : UInt8 := UInt8.ofNat c.toNat

def withOtherCase (ranges : List (UInt8 × UInt8)) : List (UInt8 × UInt8) :=
  let set : ByteSet := ⟨ranges, false⟩
  let letters := ((List.range 26).map fun i => UInt8.ofNat (0x41 + i)) ++
    (List.range 26).map fun i => UInt8.ofNat (0x61 + i)
  ranges ++ (letters.filter fun b => set.contains (otherCase b)).map fun b => (b, b)

/-- An element of a set in brackets. -/
inductive Element where
  | byte (b : UInt8)
  | symbol (b : UInt8)
  | ranges (rs : List (UInt8 × UInt8))

def splitName (mark : Char) : List Char → Option (List Char × List Char)
  | [] => none
  | c :: cs =>
    if c = mark && cs.head? = some ']' then some ([], cs.tail)
    else (splitName mark cs).map fun x => (c :: x.1, x.2)

/-- The element at the front of what stands in brackets. A dash that is no element of a range stands
only at the start or the end. -/
def readElement (allowsDash : Bool) (cs : List Char) : Except Fault (Element × List Char) :=
  match cs with
  | [] => .error .openBracket
  | '[' :: mark :: rest =>
    if mark ∈ ['.', '=', ':'] then
      match splitName mark rest with
      | none => .error .openBracket
      | some (name, rest) =>
        if mark = ':' then
          match classRanges? (String.ofList name) with
          | some ranges => .ok (.ranges ranges, rest)
          | none => .error .className
        else
          match name with
          | [c] =>
            .ok (if mark = '.' then .symbol (byteOf c) else .ranges [(byteOf c, byteOf c)], rest)
          | _ => .error .collation
    else .ok (.byte (byteOf '['), mark :: rest)
  | '-' :: rest =>
    if allowsDash || rest.head? = some ']' then .ok (.byte (byteOf '-'), rest)
    else .error .rangeEnd
  | c :: rest => .ok (.byte (byteOf c), rest)

/-- The ranges in brackets, up to the closing one, and what follows. -/
def readElements (d : Dialect) : (fuel : Nat) → (isFirst : Bool) → List Char →
    Except Fault (List (UInt8 × UInt8) × List Char)
  | 0, _, _ => .error .openBracket
  | fuel + 1, isFirst, cs => do
    let (element, rest) ← readElement isFirst cs
    let bounds : Option UInt8 := match element with
      | .byte b | .symbol b => some b
      | .ranges _ => none
    let (ranges, rest) ←
      match bounds, rest with
      | none, rest =>
        match element with
        | .ranges rs => .ok (rs, rest)
        | _ => .ok ([], rest)
      | some _, [] => .error .openBracket
      | some b, '-' :: ']' :: rest => .ok ([(b, b)], '-' :: ']' :: rest)
      | some b, '-' :: rest =>
        match ← readElement true rest with
        | (.byte e, rest) | (.symbol e, rest) =>
          if e < b && !d.allowsBackwards then .error .rangeEnd else .ok ([(b, e)], rest)
        | (.ranges _, _) => .error .rangeEnd
      | some b, rest => .ok ([(b, b)], rest)
    match rest with
    | [] => .error .openBracket
    | ']' :: rest => return (ranges, rest)
    | rest => do
      let (more, rest) ← readElements d fuel false rest
      return (ranges ++ more, rest)

def isClassName (cs : List Char) : Bool :=
  match cs, cs.reverse with
  | ':' :: _ :: _ :: _, ':' :: _ => cs.all fun c => c ∉ ['[', '-'] && c ≠ ']'
  | _, _ => false

/-- The set behind an opening bracket, and what follows it. -/
def readSet (d : Dialect) (cs : List Char) : Except Fault (ByteSet × List Char) := do
  let (isNegated, inner) := match cs with
    | '^' :: rest => (true, rest)
    | cs => (false, cs)
  if inner.isEmpty then throw .noSet
  let (ranges, rest) ← readElements d (inner.length + 1) true inner
  if d.checksClasses && isClassName (inner.take (inner.length - rest.length - 1)) then
    .error .classSyntax
  else
    let ranges := if d.ignoresCase then withOtherCase ranges else ranges
    let ranges := if d.hasLines && isNegated then (0x0A, 0x0A) :: ranges else ranges
    return (⟨ranges, isNegated⟩, rest)

/-! ## Signs -/

/-- What an expression is written with. -/
inductive Sign where
  | byte (c : Char)
  | repetition (c : Char)
  | openBrace
  | closeBrace
  | openGroup
  | closeGroup
  | bar
  | dot
  | bracket
  | set (s : ByteSet)
  | place (p : Place)
  | again (n : Nat)
  | trailingBackslash
  | finish
  deriving DecidableEq

/-- The sign at the front of a text and its size. `startsHere` says that a caret is the start of a
line or text here. -/
def signAt (d : Dialect) (startsHere : Bool) (cs : List Char) : Sign × Nat :=
  let spaces : ByteSet := ⟨[(0x09, 0x0D), (0x20, 0x20)], false⟩
  match cs with
  | [] => (.finish, 0)
  | ['\\'] => (.trailingBackslash, 1)
  | '\\' :: c :: _ =>
    let sign : Sign := match c with
      | '<' => .place .wordStart
      | '>' => .place .wordEnd
      | 'b' => .place .wordEdge
      | 'B' => .place .noWordEdge
      | '`' => .place .textStart
      | '\'' => .place .textEnd
      | 'w' => .set .word
      | 'W' => .set ByteSet.word.complement
      | 's' => .set spaces
      | 'S' => .set spaces.complement
      | c =>
        if '1' ≤ c && c ≤ '9' then .again (c.toNat - '0'.toNat)
        else if d.isExtended then .byte c
        else
          match c with
          | '|' => .bar
          | '(' => .openGroup
          | ')' => .closeGroup
          | '{' => .openBrace
          | '}' => .closeBrace
          | '+' | '?' => .repetition c
          | c => .byte c
    (sign, 2)
  | c :: rest =>
    let sign : Sign := match c with
      | '*' => .repetition c
      | '.' => .dot
      | '[' => .bracket
      | '^' =>
        if d.isExtended || startsHere then .place (if d.hasLines then .lineStart else .textStart)
        else .byte c
      | '$' =>
        let isEnd := d.isExtended ||
          match rest with
          | [] | '\\' :: ')' :: _ | '\\' :: '|' :: _ => true
          | _ => false
        if isEnd then .place (if d.hasLines then .lineEnd else .textEnd) else .byte c
      | c =>
        if !d.isExtended then .byte c
        else
          match c with
          | '|' => .bar
          | '(' => .openGroup
          | ')' => .closeGroup
          | '{' => .openBrace
          | '}' => .closeBrace
          | '+' | '?' => .repetition c
          | c => .byte c
    (sign, 1)

/-! ## Expressions -/

/-- How far an expression is read. -/
structure Reading where
  rest : List Char
  current : Sign
  opened : Nat := 0
  closed : List Nat := []
  isFresh : Bool := true
  skipped : List String := []

abbrev Reader := StateT Reading (Except Fault)

namespace Reader

def advance (d : Dialect) (startsHere : Bool) : Reader Unit :=
  modify fun r =>
    let (current, size) := signAt d startsHere r.rest
    { r with current, rest := r.rest.drop size }

def fail {α : Type} (f : Fault) : Reader α := fun _ => .error f

end Reader

/-- A number in braces. -/
inductive Count where
  | missing
  | wrong
  | number (n : Nat)

def repetitionLimit : Nat := 32767

/-- Reads a number in braces, up to a comma or the closing brace. -/
def readCount (d : Dialect) : (fuel : Nat) → Count → Reader Count
  | 0, count => return count
  | fuel + 1, count => do
    Reader.advance d false
    match (← get).current, count with
    | .finish, _ => return .wrong
    | .closeBrace, count | .byte ',', count => return count
    | .byte c, .missing =>
      readCount d fuel (if c.isDigit then .number (c.toNat - '0'.toNat) else .wrong)
    | .byte c, .number n =>
      readCount d fuel (if c.isDigit then
        .number (min (repetitionLimit + 1) (n * 10 + (c.toNat - '0'.toNat))) else .wrong)
    | _, _ => readCount d fuel .wrong

/-- Reads the interval behind an opening brace; `none` if it is none and may be something else. -/
def readInterval (d : Dialect) : Reader (Option (Nat × Option Nat)) := do
  let start ← get
  let fuel := start.rest.length + 1
  let first ← readCount d fuel .missing
  let hasComma : Bool := (← get).current = .byte ','
  let isWrong := match first with
    | .wrong => true
    | _ => false
  let last ← if isWrong || !hasComma then pure first else readCount d fuel .missing
  let wrong (f : Fault) : Reader (Option (Nat × Option Nat)) := do
    if d.allowsBrace then
      set start
      return none
    else Reader.fail f
  let fault : Fault := if (← get).current = .finish then .openBrace else .interval
  let bounded (least : Nat) (most : Option Nat) : Reader (Option (Nat × Option Nat)) := do
    if most.any (· < least) || (← get).current ≠ .closeBrace then Reader.fail .interval
    else if repetitionLimit < most.getD least then Reader.fail .tooBig
    else return some (least, most)
  match first, hasComma, last with
  | .wrong, _, _ | _, true, .wrong => wrong fault
  | .missing, false, _ => Reader.fail .interval
  | .number n, false, _ => bounded n (some n)
  | .missing, true, .missing => bounded 0 none
  | .missing, true, .number m => bounded 0 (some m)
  | .number n, true, .missing => bounded n none
  | .number n, true, .number m => bounded n (some m)

/-- The repetitions behind an expression. -/
def readRepetitions (d : Dialect) : (fuel : Nat) → Regex → Reader Regex
  | 0, r => return r
  | fuel + 1, r => do
    let again (least : Nat) (most : Option Nat) : Reader Regex := do
      Reader.advance d false
      let current := (← get).current
      if d.isStrict && (current = .repetition '*' || current = .openBrace) then
        Reader.fail .nothingToRepeat
      else readRepetitions d fuel (if most = some 0 then .empty else .repeated least most r)
    match (← get).current with
    | .repetition c => again (if c = '+' then 1 else 0) (if c = '?' then some 1 else none)
    | .openBrace =>
      match ← readInterval d with
      | some (least, most) => again least most
      | none =>
        modify fun x => { x with current := .byte '{' }
        return r
    | _ => return r

def ofByte (d : Dialect) (c : Char) : Regex :=
  let b := byteOf c
  .byte ⟨if d.ignoresCase then (b, b) :: [(otherCase b, otherCase b)] else [(b, b)], false⟩

def skip (name : String) : Reader Unit :=
  modify fun r => { r with skipped := if r.isFresh then name :: r.skipped else r.skipped }

mutual

def readChoice (d : Dialect) : (fuel depth : Nat) → Reader Regex
  | 0, _ => return .empty
  | fuel + 1, depth => do
    let closed := (← get).closed
    let first ← readParts d fuel depth
    readMore d fuel depth closed first

/-- What follows an expression after a bar. One that is empty is preferred to nothing. -/
def readMore (d : Dialect) : (fuel depth : Nat) → (closed : List Nat) → Regex → Reader Regex
  | 0, _, _, first => return first
  | fuel + 1, depth, closed, first => do
    if (← get).current ≠ .bar then return first
    else
      Reader.advance d true
      modify fun r => { r with isFresh := true }
      let r ← get
      let isEmpty : Bool := r.current = .bar || r.current = .finish ||
        (r.current = .closeGroup && depth ≠ 0)
      let second ← if isEmpty then pure .empty else do
        set { r with closed }
        let second ← readParts d fuel depth
        modify fun x => { x with closed := r.closed ++ x.closed }
        pure second
      readMore d fuel depth closed
        (if first = .empty then .either second first else .either first second)

/-- Expressions one after the other. -/
def readParts (d : Dialect) : (fuel depth : Nat) → Reader Regex
  | 0, _ => return .empty
  | fuel + 1, depth => do
    let first ← readPart d fuel depth
    let r ← get
    let isEnd : Bool := r.current = .bar || r.current = .finish ||
      (r.current = .closeGroup && depth ≠ 0)
    if isEnd then return first
    else
      match first, ← readParts d fuel depth with
      | .empty, second => return second
      | first, .empty => return first
      | first, second => return .sequence first second

/-- An expression with its repetitions. -/
def readPart (d : Dialect) : (fuel depth : Nat) → Reader Regex
  | 0, _ => return .empty
  | fuel + 1, depth => do
    let part (r : Regex) : Reader Regex := do
      modify fun x => { x with isFresh := false }
      Reader.advance d false
      readRepetitions d (fuel + 1) r
    match (← get).current with
    | .finish | .bar => return .empty
    | .trailingBackslash => Reader.fail .trailingBackslash
    | .byte c => part (ofByte d c)
    | .closeBrace => part (ofByte d '}')
    | .closeGroup => if d.allowsClose then part (ofByte d ')') else Reader.fail .closedGroup
    | .dot =>
      part (.byte ⟨(if d.hasLines then [(0x0A, 0x0A)] else []) ++
        (if d.dotTakesZero then [] else [(0, 0)]), true⟩)
    | .set s => part (.byte s)
    | .again n =>
      if n ∈ (← get).closed then part (.again n d.ignoresCase) else Reader.fail .reference
    | .bracket =>
      match readSet d (← get).rest with
      | .error f => Reader.fail f
      | .ok (s, rest) =>
        modify fun x => { x with rest }
        part (.byte s)
    | .place p =>
      Reader.advance d true
      return .place p
    | .openGroup =>
      let number := (← get).opened + 1
      modify fun x => { x with opened := number, isFresh := true }
      Reader.advance d true
      let body ← if (← get).current = .closeGroup then pure .empty
        else readChoice d fuel (depth + 1)
      if (← get).current ≠ .closeGroup then Reader.fail .openGroup
      else
        modify fun x => { x with closed := number :: x.closed }
        part (.group number body)
    | .repetition c =>
      match d.stray with
      | .literal => part (ofByte d c)
      | .refused => Reader.fail .nothingToRepeat
      | .skipped =>
        skip c.toString
        Reader.advance d false
        readPart d fuel depth
    | .openBrace =>
      if d.isStrict || d.stray = .refused then Reader.fail .nothingToRepeat
      else if d.stray = .literal then part (ofByte d '{')
      else
        match ← readInterval d with
        | none => part (ofByte d '{')
        | some _ =>
          skip "\x7b...\x7d"
          modify fun x => { x with isFresh := false }
          Reader.advance d false
          readPart d fuel depth

end

def ofText (d : Dialect) (text : String) : Except Fault (Regex × List String) := do
  let cs := text.toList
  let read : Reader Regex := do
    Reader.advance d true
    readChoice d (4 * cs.length + 4) 0
  let (r, state) ← read { rest := cs, current := .finish }
  return (r, state.skipped.reverse)

end Regex

end Gutter.Shell
