import Gutter.Shell.Regex.Reader
import Gutter.Shell.Tool.Edit.Script
import Gutter.Text.Octets

/-!
# Reading scripts that edit lines

A script comes in parts: texts and files. What a complaint says about its place is left to what reads
the parts.
-/

namespace Gutter.Shell.Tool.Edit

/-- Where a jump leads. -/
inductive Target where
  | finish
  | label (name : String)

/-- What is known of a script that is being read. -/
structure Draft where
  rest : List Char := []
  taken : Nat := 0
  lines : Nat := 0
  isFirst : Bool := true
  script : Script := {}
  title : String := ""
  blocks : List (Nat × String) := []
  labels : List (String × Nat) := []
  jumps : List (Nat × Target) := []
  pending : Option (List Char × (List UInt8 → Command)) := none

abbrev Reader := ExceptT String (StateM Draft)

namespace Reader

def next : Reader (Option Char) := do
  let d ← get
  match d.rest with
  | [] => return none
  | c :: cs =>
    set { d with rest := cs, taken := d.taken + 1, lines := d.lines + if c = '\n' then 1 else 0 }
    return some c

def back (c : Option Char) : Reader Unit :=
  modify fun d =>
    match c with
    | none => d
    | some c =>
      { d with
        rest := c :: d.rest, taken := d.taken - 1, lines := d.lines - if c = '\n' then 1 else 0 }

def skipWhile (p : Char → Bool) : Reader (List Char) := do
  let d ← get
  let cs := d.rest.takeWhile p
  set { d with
    rest := d.rest.drop cs.length
    taken := d.taken + cs.length
    lines := d.lines + cs.count '\n' }
  return cs

def nextVisible : Reader (Option Char) := do
  let _ ← skipWhile fun c => c = ' ' || c = '\t'
  next

def number (first : Char) : Reader Nat := do
  let more ← skipWhile Char.isDigit
  return (first :: more).foldl (fun n c => n * 10 + (c.toNat - '0'.toNat)) 0

def finishCommand : Reader Unit := do
  match ← nextVisible with
  | none | some '\n' | some ';' => return
  | some c =>
    if c = '\x7d' || c = '#' then back (some c) else throw "extra characters after command"

def fileName : Reader String := do
  let _ ← skipWhile fun c => c = ' ' || c = '\t'
  let cs ← skipWhile (· ≠ '\n')
  let _ ← next
  if cs.isEmpty then throw "missing filename in r/R/w/W commands"
  else return String.ofList cs

def label : Reader String := do
  let _ ← skipWhile fun c => c = ' ' || c = '\t'
  return String.ofList (← skipWhile fun c => !c.isWhitespace && c ∉ [';', '\x7d', '\x0B', '\x0C'])

end Reader

/-! ## Escapes -/

/-- The byte that a number with some digits at the front of a text stands for, and how many of them
there are. -/
def numbered (base limit : Nat) (cs : List Char) : Option (Char × Nat) :=
  let value (c : Char) : Nat :=
    if c.isDigit then c.toNat - '0'.toNat
    else if 'a' ≤ c && c ≤ 'f' then c.toNat - 'a'.toNat + 10
    else if 'A' ≤ c && c ≤ 'F' then c.toNat - 'A'.toNat + 10
    else 16
  let ds := (cs.take limit).takeWhile fun c => value c < base
  if ds.isEmpty then none
  else some (Char.ofNat (ds.foldl (fun n c => n * base + value c) 0 % 256), ds.length)

/-- The character that stands behind a backslash in another form, and how many characters that
takes. -/
def escaped? (cs : List Char) : Except String (Option (Char × Nat)) :=
  match cs with
  | 'a' :: _ => .ok (some ('\x07', 1))
  | 'f' :: _ => .ok (some ('\x0C', 1))
  | 'n' :: _ => .ok (some ('\n', 1))
  | 'r' :: _ => .ok (some ('\r', 1))
  | 't' :: _ => .ok (some ('\t', 1))
  | 'v' :: _ => .ok (some ('\x0B', 1))
  | 'c' :: c :: rest =>
    let control := Char.ofNat (c.toUpper.toNat ^^^ 0x40)
    if c = '\\' then
      if rest.head? = some '\\' then .ok (some (control, 3))
      else if rest.isEmpty then .ok none
      else .error "recursive escaping after \\c not allowed"
    else .ok (some (control, 2))
  | 'd' :: rest => .ok ((numbered 10 3 rest).map fun x => (x.1, x.2 + 1))
  | 'o' :: rest => .ok ((numbered 8 3 rest).map fun x => (x.1, x.2 + 1))
  | 'x' :: rest => .ok ((numbered 16 2 rest).map fun x => (x.1, x.2 + 1))
  | _ => .ok none

/-- A text in which escapes are replaced by what they stand for; other backslashes are left out. -/
def unescapeText : (fuel : Nat) → List Char → Except String (List Char)
  | 0, cs => .ok cs
  | _, [] => .ok []
  | _, ['\\'] => .ok []
  | fuel + 1, '\\' :: cs => do
    match ← escaped? cs with
    | some (c, n) => return c :: (← unescapeText fuel (cs.drop n))
    | none => return (cs.take 1) ++ (← unescapeText fuel (cs.drop 1))
  | fuel + 1, c :: cs => return c :: (← unescapeText fuel cs)

def unescapePattern : (fuel : Nat) → List Char → Except String (List Char)
  | 0, cs => .ok cs
  | _, [] => .ok []
  | fuel + 1, '\\' :: cs => do
    match ← escaped? cs with
    | some (c, n) =>
      return (if c = '\\' && cs.head? = some 'c' then ['\\', c] else [c]) ++
        (← unescapePattern fuel (cs.drop n))
    | none => return '\\' :: cs.take 1 ++ (← unescapePattern fuel (cs.drop 1))
  | fuel + 1, c :: cs => return c :: (← unescapePattern fuel cs)

/-- The parts of a replacement. -/
def readParts : (fuel : Nat) → List Char → Except String (List Part)
  | 0, _ => .ok []
  | _, [] => .ok []
  | fuel + 1, '&' :: cs => return .group 0 :: (← readParts fuel cs)
  | _, ['\\'] => .ok [.text [0x5C]]
  | fuel + 1, '\\' :: c :: cs => do
    let case? : Option Case := match c with
      | 'U' => some .upper
      | 'L' => some .lower
      | 'E' => some .kept
      | 'u' => some .nextUpper
      | 'l' => some .nextLower
      | _ => none
    match case? with
    | some x => return .case x :: (← readParts fuel cs)
    | none =>
      if c.isDigit then return .group (c.toNat - '0'.toNat) :: (← readParts fuel cs)
      else
        match ← escaped? (c :: cs) with
        | some (x, n) => return .text [Regex.byteOf x] :: (← readParts fuel ((c :: cs).drop n))
        | none => return .text [Regex.byteOf c] :: (← readParts fuel cs)
  | fuel + 1, c :: cs => return .text [Regex.byteOf c] :: (← readParts fuel cs)

/-! ## Parts of commands -/

/-- What scripts are read with. -/
structure Mode where
  isExtended : Bool := false
  isRestricted : Bool := false
  isStrict : Bool := false

/-- A set of characters behind its opening bracket up to its closing one, added in front of a text;
`none` if the line ends before. `name` is the sign around a name in the set that is being read. -/
def bracketed : (fuel : Nat) → (name : Option Char) → List Char → Reader (Option (List Char))
  | 0, _, _ => return none
  | fuel + 1, name, text => do
    match ← Reader.next, name with
    | none, _ => return none
    | some '\n', _ =>
      Reader.back (some '\n')
      return none
    | some ']', none => return some (']' :: text)
    | some ']', some sign =>
      bracketed fuel (if text.head? = some sign then none else name) (']' :: text)
    | some '[', none =>
      let c ← Reader.next
      if c.any (· ∈ [':', '.', '=']) then bracketed fuel c (c.toList ++ '[' :: text)
      else
        Reader.back c
        bracketed fuel none ('[' :: text)
    | some c, name => bracketed fuel name (c :: text)

def optional (c : Char) : Reader (List Char) := do
  let x ← Reader.next
  if x = some c then return [c]
  else
    Reader.back x
    return []

/-- The text up to a delimiter, which can stand in the text behind a backslash or in a set of
characters; `none` if the line ends before. -/
def delimited (delimiter : Char) (isPattern : Bool) : (fuel : Nat) → List Char →
    Reader (Option (List Char))
  | 0, _ => return none
  | fuel + 1, text => do
    match ← Reader.next with
    | none => return none
    | some '\n' =>
      Reader.back (some '\n')
      return none
    | some c =>
      if c = delimiter then return some text.reverse
      else if c = '\\' then
        match ← Reader.next with
        | none => return none
        | some x =>
          if x = delimiter then
            delimited delimiter isPattern fuel
              (if !isPattern && x = '&' then x :: '\\' :: text else x :: text)
          else if x = 'n' && isPattern then delimited delimiter isPattern fuel ('\n' :: text)
          else if x = '\n' then delimited delimiter isPattern fuel ('\n' :: text)
          else delimited delimiter isPattern fuel (x :: '\\' :: text)
      else if c = '[' && isPattern then
        let start := c :: text
        let start := (← optional '^') ++ start
        let start := (← optional ']') ++ start
        match ← bracketed fuel none start with
        | some text => delimited delimiter isPattern fuel text
        | none => return none
      else delimited delimiter isPattern fuel (c :: text)

/-- The expression that a text is; an empty one is left out. -/
def compile (m : Mode) (ignoresCase hasLines : Bool) (text : List Char) : Reader (Option Regex) := do
  if text.isEmpty then
    if ignoresCase || hasLines then throw "cannot specify modifiers on empty regexp"
    else return none
  else
    let dialect : Regex.Dialect :=
      { isExtended := m.isExtended
        stray := if m.isExtended then .refused else .literal
        isStrict := !m.isExtended
        dotTakesZero := true
        ignoresCase
        hasLines }
    let text ← match unescapePattern (text.length + 1) text with
      | .ok text => pure text
      | .error e => throw e
    match Regex.ofText dialect (String.ofList text) with
    | .ok (r, _) => return some r
    | .error f => throw f.message

def modifiers (m : Mode) : (fuel : Nat) → Bool × Bool → Reader (Bool × Bool)
  | 0, found => return found
  | fuel + 1, (ignoresCase, hasLines) => do
    match ← Reader.nextVisible, m.isStrict with
    | some 'I', false => modifiers m fuel (true, hasLines)
    | some 'M', false => modifiers m fuel (ignoresCase, true)
    | c, _ =>
      Reader.back c
      return (ignoresCase, hasLines)

/-- An address that starts with a character; `none` if there is none. -/
def readAddress (m : Mode) (first : Option Char) : Reader (Option (Address ⊕ Limit)) := do
  let fuel := (← get).rest.length + 1
  let number : Reader Nat := do
    match ← Reader.nextVisible with
    | some c => if c.isDigit then Reader.number c else do
        Reader.back (some c)
        return 0
    | none => return 0
  match first, m.isStrict with
  | some '$', _ => return some (.inl .last)
  | some '+', false => return some (.inr (.further (← number)))
  | some '~', false => return some (.inr (.multiple (← number)))
  | some c, _ =>
    if c.isDigit then
      let n ← Reader.number c
      match ← Reader.nextVisible, m.isStrict with
      | some '~', false =>
        let step ← number
        return some (.inl (if step = 0 then .line n else .step n step))
      | c, _ =>
        Reader.back c
        return some (.inl (.line n))
    else if c = '/' || c = '\\' then
      let delimiter? ← if c = '\\' then Reader.next else pure (some c)
      let text? ← match delimiter? with
        | some delimiter => delimited delimiter true fuel []
        | none => pure none
      match text? with
      | none => throw "unterminated address regex"
      | some text =>
        let (ignoresCase, hasLines) ← modifiers m fuel (false, false)
        return some (.inl (.matching (← compile m ignoresCase hasLines text)))
    else return none
  | none, _ => return none

def Address.limit : Address → Limit
  | .line n | .step n _ => .line n
  | .last => .last
  | .matching r => .matching r

/-- The lines that stand before a command, and the character behind them. -/
def readChoice (m : Mode) (first : Option Char) : Reader (Choice × Option Char) := do
  match ← readAddress m first with
  | none => return (.all, first)
  | some (.inr _) => throw "invalid usage of +N or ~N as first address"
  | some (.inl start) =>
    let isZero := match start with
      | .line 0 => true
      | _ => false
    match ← Reader.nextVisible with
    | some ',' =>
      let stop? ← readAddress m (← Reader.nextVisible)
      let stop ← match stop? with
        | none => throw "unexpected \x60,'"
        | some (.inl a) => pure a.limit
        | some (.inr l) => pure l
      let c ← Reader.nextVisible
      let isMatch := match stop with
        | .matching _ => true
        | _ => false
      if isZero && (!isMatch || m.isStrict) then throw "invalid usage of line address 0"
      else return (.range start stop, c)
    | c => if isZero then throw "invalid usage of line address 0" else return (.one start, c)

def addFile (name : String) : Reader Unit :=
  modify fun d =>
    let files := d.script.files
    { d with script :=
      { d.script with files := if name ∈ files then files else files ++ [name] } }

/-- What stands behind a replacement. -/
structure Flags where
  number : Option Nat := none
  isGlobal : Bool := false
  prints : Bool := false
  runs : Bool := false
  ignoresCase : Bool := false
  hasLines : Bool := false
  file : Option String := none

/-- The flags of a replacement. -/
def readFlags : (fuel : Nat) → Flags → Reader Flags
  | 0, f => return f
  | fuel + 1, f => do
    match ← Reader.next with
    | none | some '\n' | some ';' => return f
    | some 'i' | some 'I' => readFlags fuel { f with ignoresCase := true }
    | some 'm' | some 'M' => readFlags fuel { f with hasLines := true }
    | some 'e' => readFlags fuel { f with runs := true }
    | some ' ' => readFlags fuel f
    | some 'p' =>
      if f.prints then throw "multiple \x60p' options to \x60s' command"
      else readFlags fuel { f with prints := true }
    | some 'g' =>
      if f.isGlobal then throw "multiple \x60g' options to \x60s' command"
      else readFlags fuel { f with isGlobal := true }
    | some 'w' =>
      let name ← Reader.fileName
      addFile name
      return { f with file := some name }
    | some c =>
      if c = '\x7d' || c = '#' then
        Reader.back (some c)
        return f
      else if c = '\r' && (← get).rest.head? = some '\n' then
        let _ ← Reader.next
        return f
      else if c.isDigit then
        if f.number.isSome then throw "multiple number options to \x60s' command"
        else
          let n ← Reader.number c
          if n = 0 then throw "number option to \x60s' command may not be zero"
          else readFlags fuel { f with number := some n }
      else throw "unknown option to \x60s'"

/-- A replacement behind its letter. -/
def readSubstitution (m : Mode) : Reader Substitution := do
  let fuel := (← get).rest.length + 1
  let part (delimiter : Char) (isPattern : Bool) : Reader (List Char) := do
    match ← delimited delimiter isPattern fuel [] with
    | some text => return text
    | none => throw "unterminated \x60s' command"
  match ← Reader.next with
  | none => throw "unterminated \x60s' command"
  | some delimiter =>
    if delimiter = '\n' || delimiter = '\\' then throw "unterminated \x60s' command"
    else
      let pattern ← part delimiter true
      let replacement ← part delimiter false
      let parts ← match readParts (replacement.length + 1) replacement with
        | .ok parts => pure parts
        | .error e => throw e
      let f ← readFlags fuel {}
      let pattern ← compile m f.ignoresCase f.hasLines pattern
      let greatest := parts.foldl (fun n p => match p with
        | .group k => max n k
        | _ => n) 0
      if pattern.any fun r => r.groupCount < greatest then
        throw ("invalid reference \\" ++ toString greatest ++ " on \x60s' command's RHS")
      else if m.isRestricted && (f.runs || f.file.isSome) then
        throw "e/r/w commands disabled in sandbox mode"
      else
        return { pattern, parts, first := f.number.getD 1, isGlobal := f.isGlobal,
                 prints := f.prints, runs := f.runs, file := f.file }

/-- A translation behind its letter. -/
def readTranslation : Reader (List (UInt8 × UInt8)) := do
  let fuel := (← get).rest.length + 1
  let part (delimiter : Char) : Reader (List Char) := do
    match ← delimited delimiter false fuel [] with
    | none => throw "unterminated \x60y' command"
    | some text =>
      match unescapeText (text.length + 1) text with
      | .ok cs => return cs
      | .error e => throw e
  match ← Reader.next with
  | none => throw "unterminated \x60y' command"
  | some delimiter =>
    let old ← part delimiter
    let new ← part delimiter
    if old.length ≠ new.length then throw "strings for \x60y' command are different lengths"
    else
      Reader.finishCommand
      return (old.map Regex.byteOf).zip (new.map Regex.byteOf)

/-! ## Texts -/

/-- A text up to the end of its last line, a line break without a backslash before it. The answer
tells whether the part of the script ends behind a backslash, so that the text goes on in the next
one. -/
def readText : (fuel : Nat) → List Char → Reader (List Char × Bool)
  | 0, text => return (text, false)
  | fuel + 1, text => do
    match ← Reader.next with
    | none | some '\n' => return (text, false)
    | some '\\' =>
      match ← Reader.next with
      | none => return (text, true)
      | some c => readText fuel (text ++ ['\\', c])
    | some c => readText fuel (text ++ [c])

def textBytes (text : List Char) : Reader (List UInt8) := do
  match unescapeText (text.length + 1) text with
  | .ok cs => return (cs ++ ['\n']).map Regex.byteOf
  | .error e => throw e

/-! ## Commands -/

def add (i : Instruction) : Reader Unit :=
  modify fun d =>
    { d with script := { d.script with instructions := d.script.instructions.push i } }

def addText (choice : Choice) (isNegated : Bool) (command : List UInt8 → Command)
    (start : List Char) : Reader Unit := do
  let (text, goesOn) ← readText ((← get).rest.length + 1) start
  if goesOn then
    modify fun d => { d with pending := some (text ++ ['\\', '\n'], command) }
    add { choice, isNegated, command := command (← textBytes text) }
  else add { choice, isNegated, command := command (← textBytes text) }

/-- Adds a command with a text behind its letter. -/
def readTextCommand (m : Mode) (choice : Choice) (isNegated : Bool) (command : List UInt8 → Command) :
    Reader Unit := do
  match ← Reader.nextVisible with
  | none => throw "expected \\ after \x60a', \x60c' or \x60i'"
  | some '\\' =>
    match ← Reader.next with
    | none =>
      modify fun d => { d with pending := some ([], command) }
      add { choice, isNegated, command := command [] }
    | some '\n' => addText choice isNegated command []
    | some c =>
      if c = '\\' then
        Reader.back (some c)
        addText choice isNegated command []
      else addText choice isNegated command [c]
  | some c =>
    if m.isStrict then throw "expected \\ after \x60a', \x60c' or \x60i'"
    Reader.back (some c)
    addText choice isNegated command []

def goOn (text : List Char) (command : List UInt8 → Command) : Reader Unit := do
  modify fun d => { d with pending := none }
  let (text, goesOn) ← readText ((← get).rest.length + 1) text
  if goesOn then modify fun d => { d with pending := some (text ++ ['\\', '\n'], command) }
  let bytes ← textBytes text
  modify fun d =>
    let all := d.script.instructions
    let last := all.back?.map fun i => { i with command := command bytes }
    { d with script := { d.script with instructions := last.elim all (all.pop.push ·) } }

def addJump (target : String) : Reader Unit :=
  modify fun d =>
    let place := d.script.instructions.size
    let t : Target := if target.isEmpty then .finish else .label target
    { d with jumps := d.jumps ++ [(place, t)] }

/-- The command that a letter stands for if nothing follows it. -/
def plainCommand? (c : Char) : Option Command :=
  match c with
  | '=' => some .showNumber
  | 'd' => some .delete
  | 'D' => some .deleteFirst
  | 'F' => some .showName
  | 'g' => some (.takeHeld false)
  | 'G' => some (.takeHeld true)
  | 'h' => some (.hold false)
  | 'H' => some (.hold true)
  | 'n' => some .next
  | 'N' => some .nextAppend
  | 'p' => some .print
  | 'P' => some .printFirst
  | 'x' => some .exchange
  | 'z' => some .clear
  | _ => none

/-- The command behind the lines on which it is run. -/
def readCommand (m : Mode) (choice : Choice) (isNegated : Bool) (c : Option Char) : Reader Unit := do
  let hasAddress := match choice with
    | .all => false
    | _ => true
  let isRange := match choice with
    | .range .. => true
    | _ => false
  let put (command : Command) : Reader Unit := add { choice, isNegated, command }
  let refuseFiles : Reader Unit :=
    if m.isRestricted then throw "e/r/w commands disabled in sandbox mode" else return
  let optionalNumber : Reader (Option Nat) := do
    match ← Reader.nextVisible with
    | some c =>
      if c.isDigit then return some (← Reader.number c)
      else
        Reader.back (some c)
        return none
    | none => return none
  if m.isStrict && c.any (· ∈ ['e', 'F', 'v', 'z', 'Q', 'T', 'R', 'W']) then
    throw ("unknown command: \x60" ++ (c.getD ' ').toString ++ "'")
  if m.isStrict && isRange && c.any (· ∈ ['a', 'i', '=', 'r']) then
    throw "command only uses one address"
  match c with
  | none | some '\n' | some ';' => throw "missing command"
  | some '#' =>
    if hasAddress then throw "comments don't accept any addresses"
    else
      let isStart := (← get).taken = 1 && (← get).isFirst
      let text ← Reader.skipWhile (· ≠ '\n')
      if isStart && text.head? = some 'n' then
        modify fun d => { d with script := { d.script with isQuiet := true } }
  | some '{' =>
    modify fun d => { d with blocks := (d.script.instructions.size, d.title) :: d.blocks }
    put (.block 0)
  | some '}' =>
    match (← get).blocks with
    | [] => throw "unexpected \x60\x7d'"
    | (start, _) :: blocks =>
      if hasAddress then throw "\x60\x7d' doesn't want any addresses"
      else
        Reader.finishCommand
        modify fun d =>
          let all := d.script.instructions
          let closed := all.modify start fun i => { i with command := .block all.size }
          { d with blocks, script := { d.script with instructions := closed } }
  | some ':' =>
    if hasAddress then throw ": doesn't want any addresses"
    else
      let name ← Reader.label
      if name.isEmpty then throw "\":\" lacks a label"
      else modify fun d => { d with labels := d.labels ++ [(name, d.script.instructions.size)] }
  | some 'a' => readTextCommand m choice isNegated .append
  | some 'i' => readTextCommand m choice isNegated .insert
  | some 'c' => readTextCommand m choice isNegated .change
  | some 'b' =>
    addJump (← Reader.label)
    put (.jump 0)
  | some 't' =>
    addJump (← Reader.label)
    put (.jumpIf true 0)
  | some 'T' =>
    addJump (← Reader.label)
    put (.jumpIf false 0)
  | some 'e' =>
    refuseFiles
    let _ ← Reader.skipWhile fun c => c = ' ' || c = '\t'
    let script ← Reader.skipWhile (· ≠ '\n')
    put (.run (String.ofList script))
  | some 'l' =>
    let width ← optionalNumber
    Reader.finishCommand
    put (.list width)
  | some 'q' | some 'Q' =>
    if isRange then throw "command only uses one address"
    else
      let status ← optionalNumber
      Reader.finishCommand
      put (.quit (status.getD 0) (c = some 'q'))
  | some 'r' =>
    refuseFiles
    put (.readFile (← Reader.fileName))
  | some 'R' =>
    refuseFiles
    put (.readLine (← Reader.fileName))
  | some 's' =>
    put (.substitute (← readSubstitution m))
  | some 'v' =>
    let version ← Reader.label
    let numbers := (version.splitOn ".").map fun n => n.toNat?.getD 0
    if [4, 9, 0] < numbers then throw "expected newer version of sed"
  | some 'w' | some 'W' =>
    refuseFiles
    let name ← Reader.fileName
    addFile name
    put (.write name (c = some 'W'))
  | some 'y' => put (.translate (← readTranslation))
  | some c =>
    match plainCommand? c with
    | some command =>
      Reader.finishCommand
      put command
    | none => throw ("unknown command: \x60" ++ c.toString ++ "'")

/-- The commands of a part of a script. -/
def readCommands (m : Mode) : (fuel : Nat) → Reader Unit
  | 0 => return
  | fuel + 1 => do
    let _ ← Reader.skipWhile fun c => c.isWhitespace || c ∈ [';', '\x0B', '\x0C']
    match ← Reader.next with
    | none => return
    | some c =>
      let (choice, c) ← readChoice m (some c)
      if c = some '!' then
        let c ← Reader.nextVisible
        if c = some '!' then throw "multiple \x60!'s"
        else readCommand m choice true c
      else readCommand m choice false c
      readCommands m fuel

/-! ## Scripts -/

/-- A part of a script: its text, and the name of the file from which it comes. -/
structure Chunk where
  text : String
  file : Option String := none

/-- How complaints name a part of a script; the number of a line or a character follows. -/
def titleOf (number : Nat) (chunk : Chunk) : String :=
  match chunk.file with
  | some name => "file " ++ name ++ " line "
  | none => "-e expression #" ++ toString number ++ ", char "

/-- Why a script cannot be run: a complaint, the status with which the program ends, and the files
that are written before. -/
structure Defect where
  text : String
  status : Nat := 1
  files : List String := []

/-- Reads the parts of a script; `number` is that of the last text that is no file. -/
def readChunks (m : Mode) : (number : Nat) → Draft → List Chunk → Except Defect Draft
  | _, d, [] => .ok d
  | number, d, chunk :: chunks =>
    let number := if chunk.file.isSome then number else number + 1
    let title := titleOf number chunk
    let start := { d with rest := chunk.text.toList, taken := 0, lines := 0, title }
    let read : Reader Unit := do
      start.pending.forM fun (text, command) => goOn text command
      readCommands m (start.rest.length + 1)
    match read.run.run start with
    | (.ok _, d) => readChunks m number { d with isFirst := false } chunks
    | (.error e, d) =>
      .error
        { text := title ++ toString (if chunk.file.isSome then d.lines + 1 else d.taken) ++ ": " ++ e
          status := if e.endsWith "[:space:]" then 4 else 1
          files := d.script.files }

def Command.retarget (place : Nat) : Command → Command
  | .jump _ => .jump place
  | .jumpIf replaced _ => .jumpIf replaced place
  | c => c

/-- The script that some parts make. -/
def Script.ofChunks (m : Mode) (chunks : List Chunk) : Except Defect Script := do
  let d ← readChunks m 0 {} chunks
  if let (_, title) :: _ := d.blocks then
    throw { text := title ++ "0: unmatched \x60\x7b'", files := d.script.files }
  let instructions ← d.jumps.reverse.foldlM (fun (all : Array Instruction) (place, target) =>
    match target with
    | .finish => .ok (all.modify place fun i => { i with command := i.command.retarget all.size })
    | .label name =>
      match d.labels.lookup name with
      | some n => .ok (all.modify place fun i => { i with command := i.command.retarget n })
      | none =>
        .error
          { text := "can't find label for jump to \x60" ++ name ++ "'"
            status := 4
            files := d.script.files })
    d.script.instructions
  return { d.script with instructions }

end Gutter.Shell.Tool.Edit
