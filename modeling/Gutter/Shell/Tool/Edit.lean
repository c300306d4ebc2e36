import Gutter.Shell.Number
import Gutter.Shell.Tool
import Gutter.Shell.Tool.Edit.Reader

/-!
# Editing lines

The program that runs a script of commands on each line of its input.
-/

namespace Gutter.Shell.Tool

namespace Edit

/-! ## Replacements -/

/-- The letters of a text in some case; `first` is for the first letter alone. -/
def inCase (first : Option Case) (rest : Case) (bs : List UInt8) : List UInt8 :=
  let change (c : Case) (b : UInt8) : UInt8 :=
    match c with
    | .upper | .nextUpper => if 0x61 ≤ b && b ≤ 0x7A then b - 0x20 else b
    | .lower | .nextLower => if 0x41 ≤ b && b ≤ 0x5A then b + 0x20 else b
    | .kept => b
  match first, bs with
  | some c, b :: bs => change c b :: bs.map (change rest)
  | _, bs => bs.map (change rest)

def replacement (parts : List Part) (m : Regex.Match) (text : Array UInt8) : List UInt8 :=
  (parts.foldl (fun (done, first, rest) part =>
    let put (bs : List UInt8) : List UInt8 × Option Case × Case :=
      if bs.isEmpty then (done, first, rest) else (done ++ inCase first rest bs, none, rest)
    match part with
    | .text bs => put bs
    | .group n => put ((m.group? text n).getD [])
    | .case .nextUpper => (done, some .nextUpper, rest)
    | .case .nextLower => (done, some .nextLower, rest)
    | .case c => (done, none, c)) (([] : List UInt8), (none : Option Case), Case.kept)).1

/-- A text with matches replaced from the first one that counts on; `none` if there are none. `count`
is the number of the next match, and `last` the place where the one before stopped. -/
def replaceFrom (r : Regex) (s : Substitution) (text : Array UInt8) :
    (fuel : Nat) → (start count : Nat) → (last : Option Nat) → (done : List (List UInt8)) →
    (changed : Bool) → Option (List UInt8)
  | 0, _, _, _, _, _ => none
  | fuel + 1, start, count, last, done, changed =>
    let finish (from_ : Nat) (done : List (List UInt8)) (changed : Bool) : Option (List UInt8) :=
      if changed then some ((Regex.Match.part text from_ text.size :: done).reverse.flatten)
      else none
    if text.size < start then finish start done changed
    else
      match r.find? text start with
      | none => finish start done changed
      | some m =>
        let before := Regex.Match.part text start m.start
        let isEmpty := m.stop = m.start
        let behind := if isEmpty then m.stop + 1 else m.stop
        let skipped := if isEmpty then Regex.Match.part text m.stop (m.stop + 1) else []
        if isEmpty && last = some m.start then
          replaceFrom r s text fuel behind count none ((before ++ skipped) :: done) changed
        else if count < s.first then
          replaceFrom r s text fuel behind (count + 1) (some m.stop)
            ((before ++ m.whole text ++ skipped) :: done) changed
        else
          let new := before ++ replacement s.parts m text
          if s.isGlobal then
            replaceFrom r s text fuel behind (count + 1) (some m.stop)
              (skipped :: new :: done) true
          else finish m.stop (new :: done) true

/-- A text with matches replaced; `none` if there are none. -/
def replace? (r : Regex) (s : Substitution) (bs : List UInt8) : Option (List UInt8) :=
  replaceFrom r s bs.toArray (bs.length + 2) 0 1 none [] false

/-! ## Showing lines -/

def shown (b : UInt8) : List UInt8 :=
  let named : List (UInt8 × Char) := [(0x5C, '\\'), (0x07, 'a'), (0x08, 'b'), (0x0C, 'f'),
    (0x0A, 'n'), (0x0D, 'r'), (0x09, 't'), (0x0B, 'v')]
  match named.lookup b with
  | some c => [0x5C, Regex.byteOf c]
  | none =>
    if 0x20 ≤ b && b < 0x7F then [b]
    else [0x5C, 0x30 + b / 64, 0x30 + b / 8 % 8, 0x30 + b % 8]

def listed (terminator : UInt8) (width : Nat) (bs : List UInt8) : List UInt8 :=
  let (rows, _) := bs.foldl (fun (done, column) b =>
    let cell := shown b
    if 1 < width && width ≤ column + cell.length then
      (cell :: [0x5C, terminator] :: done, cell.length)
    else (cell :: done, column + cell.length)) (([] : List (List UInt8)), 0)
  rows.reverse.flatten ++ [0x24, terminator]

/-! ## State -/

/-- What is written when the next line is read. -/
inductive Later where
  | text (bytes : List UInt8)
  | file (name : String)

structure Line where
  bytes : List UInt8
  hasEnd : Bool := true

/-- How far a range of lines has come. -/
inductive Span where
  | outside
  | within (stop : Option Nat)
  | closed
  deriving DecidableEq

/-- What does not change. -/
structure Setting where
  supply : Supply
  script : Script
  isQuiet : Bool := false
  isSeparate : Bool := false
  backup : Option String := none
  width : Nat := 70
  terminator : UInt8 := 0x0A
  isStrict : Bool := false

/-- How far the work has come. -/
structure State where
  progress : Progress
  output : List (List UInt8) := []
  edited : List (List UInt8) := []
  cut : List String := []
  space : Line := ⟨[], true⟩
  held : Line := ⟨[], true⟩
  number : Nat := 0
  replaced : Bool := false
  keepsSpace : Bool := false
  used : Option Regex := none
  spans : List (Nat × Span) := []
  later : List Later := []
  name : String := "-"
  lines : List Line := []
  isOpen : Bool := false
  files : List String
  readers : List (String × List Line) := []
  unread : Nat := 0
  ended : Option Nat := none

def linesOfBytes (terminator : UInt8) (bs : List UInt8) : List Line :=
  let rows := bs.splitOn terminator
  let whole := rows.dropLast.map fun row => (⟨row, true⟩ : Line)
  match rows.getLast? with
  | none | some [] => whole
  | some row => whole ++ [⟨row, false⟩]

namespace State

def die (x : Setting) (status : Nat) (text : String) (s : State) : State :=
  { s with progress := s.progress.complain x.supply status text, ended := some status }

def mainOutput : String := "/dev/stdout"

/-- Writes bytes to an output: the main one, another stream or a file. -/
def writeRaw (x : Setting) (isMain : Bool) (name : String) (bs : List UInt8) (s : State) : State :=
  if isMain && x.backup.isSome then { s with edited := bs :: s.edited }
  else if isMain || name = mainOutput then { s with output := bs :: s.output }
  else if name = "/dev/stderr" then { s with progress := s.progress.write 2 bs }
  else
    match x.supply.store name true bs s.progress with
    | .ok progress => { s with progress }
    | .error e => s.die x 4 ("couldn't open file " ++ name ++ ": " ++ e.reason)

def put (x : Setting) (isMain : Bool) (name : String) (bs : List UInt8) (s : State) : State :=
  let key := if isMain then "" else name
  if key ∈ s.cut then
    { s with cut := s.cut.filter (· ≠ key) }.writeRaw x isMain name (x.terminator :: bs)
  else s.writeRaw x isMain name bs

def putLine (x : Setting) (isMain : Bool) (name : String) (line : Line) (s : State) : State :=
  let key := if isMain then "" else name
  if line.hasEnd then s.put x isMain name (line.bytes ++ [x.terminator])
  else
    let s := s.put x isMain name line.bytes
    { s with cut := key :: s.cut }

def print (x : Setting) (bs : List UInt8) (s : State) : State := s.put x true "" bs

def printLine (x : Setting) (line : Line) (s : State) : State := s.putLine x true "" line

def contents (x : Setting) (name : String) (s : State) : List UInt8 :=
  (({ x.supply with files := s.progress.files }.source name).contents.toOption).getD []

def flushLater (x : Setting) (s : State) : State :=
  s.later.foldl (fun s item =>
    match item with
    | .text bs => s.print x bs
    | .file name => s.print x (s.contents x name)) { s with later := [] }

/-! ## Input -/

/-- Puts the file that has been edited in its place. -/
def closeFile (x : Setting) (s : State) : State :=
  match x.backup with
  | none => { s with isOpen := false }
  | some ending =>
    let s := { s with isOpen := false, cut := s.cut.filter (· ≠ "") }
    let path := pathOf s.name
    match s.progress.files.locate x.supply.directory path with
    | .error _ => s
    | .ok l =>
      let files := s.progress.files
      let old := (files.contents? l).getD []
      let folder := (s.name.splitOn "/").dropLast
      let last := (s.name.splitOn "/").getLast?.getD ""
      let kept := if '*' ∈ ending.toList then ending.replace "*" last else last ++ ending
      let copy := if '/' ∈ kept.toList then kept else "/".intercalate (folder ++ [kept])
      let files := if ending.isEmpty then files
        else
          match files.locate x.supply.directory (pathOf copy) with
          | .ok place => files.create (files.mode l) place old
          | .error _ => files
      { s with
        progress := { s.progress with files := files.insert l s.edited.reverse.flatten }
        edited := [] }

/-- Opens a file. -/
def openFile (x : Setting) (name : String) (s : State) : State :=
  let isInput := name = "-" && x.backup.isNone
  let source : Supply.Source :=
    if isInput then { name, contents := x.supply.input, isInput := true }
    else { x.supply with files := s.progress.files }.source name
  let start := if x.isSeparate then { s with number := 0, spans := [] } else s
  match source.contents with
  | .error e =>
    let shownName := if isInput then "stdin" else name
    if e = .isDirectory && x.backup.isSome then
      s.die x 4 ("couldn't edit " ++ name ++ ": not a regular file")
    else if e = .isDirectory || isInput then
      s.die x 4 ("read error on " ++ shownName ++ ": " ++ e.reason)
    else
      let text := "can't read " ++ name ++ ": " ++ e.reason
      { s with progress := s.progress.complain x.supply 2 text }
  | .ok bytes =>
    if x.backup.isSome && !source.isRegular then
      s.die x 4 ("couldn't edit " ++ name ++ ": not a regular file")
    else if source.isInput then
      { start with
        name := "-"
        isOpen := true
        lines := linesOfBytes x.terminator (bytes.drop (bytes.length - s.unread)) }
    else { start with name, isOpen := true, lines := linesOfBytes x.terminator bytes }

def advance (x : Setting) : (fuel : Nat) → State → State
  | 0, s => s
  | fuel + 1, s =>
    if s.ended.isSome || !s.lines.isEmpty then s
    else
      let s := if s.isOpen then s.closeFile x else s
      match s.files with
      | [] => s
      | name :: files => advance x fuel ({ s with files }.openFile x name)

def isLast (x : Setting) (s : State) : Bool × State :=
  if !s.lines.isEmpty then (false, s)
  else if x.isSeparate then (true, s)
  else
    let s := s.advance x (s.files.length + 1)
    (s.lines.isEmpty, s)

/-- Reads the next line. -/
def readNext (x : Setting) (appends : Bool) (s : State) : Option State × State :=
  let s := s.flushLater x
  let s := s.advance x (s.files.length + 1)
  match s.lines with
  | [] => (none, s)
  | line :: lines =>
    let bytes := if appends then s.space.bytes ++ x.terminator :: line.bytes else line.bytes
    let taken := line.bytes.length + if line.hasEnd then 1 else 0
    let next : State :=
      { s with
        lines
        space := { line with bytes }
        number := s.number + 1
        replaced := if appends then s.replaced else false
        unread := if s.name = "-" then s.unread - taken else s.unread }
    (some next, next)

/-! ## Addresses -/

def isMatch (x : Setting) (r : Option Regex) (s : State) : Bool × State :=
  match r <|> s.used with
  | none => (false, s.die x 1 "-e expression #1, char 0: no previous regular expression")
  | some r =>
    ((r.find? s.space.bytes.toArray 0).isSome, { s with used := some r })

def isAt (x : Setting) (a : Address) (s : State) : Bool × State :=
  match a with
  | .line n => (s.number = n, s)
  | .step first step => (first ≤ s.number && (s.number - first) % step = 0, s)
  | .last => s.isLast x
  | .matching r => s.isMatch x r

def setSpan (place : Nat) (span : Span) (s : State) : State :=
  { s with spans := (place, span) :: s.spans.filter (·.1 ≠ place) }

/-- How far the range of a command has come that starts at some address. Before the first line is the
place where a range can be that starts at the line zero. -/
def spanAt (place : Nat) (start : Address) (s : State) : Span :=
  let first : Span := match start with
    | .line 0 => .within none
    | _ => .outside
  (s.spans.lookup place).getD first

/-- Whether the line is in a range that starts at some address. -/
def isInRange (x : Setting) (place : Nat) (start : Address) (stop : Limit) (s : State) :
    Bool × State :=
  let startLine? := match start with
    | .line n => some n
    | _ => none
  let span := s.spanAt place start
  let behind : Span := if startLine?.isSome then .closed else .outside
  match span with
  | .within end? =>
    match end?, stop with
    | some n, .line _ =>
      if n ≤ s.number then (s.number ≤ n, s.setSpan place behind) else (true, s)
    | some n, _ => (true, if n ≤ s.number then s.setSpan place behind else s)
    | none, .matching r =>
      let (isEnd, s) := s.isMatch x r
      (true, if isEnd then s.setSpan place behind else s)
    | none, _ =>
      let (isEnd, s) := s.isLast x
      (true, if isEnd then s.setSpan place behind else s)
  | span =>
    let (isStart, s) := match startLine? with
      | some n => (span ≠ .closed && n ≤ s.number, s)
      | none => s.isAt x start
    if !isStart then (false, s)
    else
      let upTo (n : Nat) : Bool × State :=
        if s.number < n then (true, s.setSpan place (.within (some n)))
        else (startLine?.all (fun m => m = s.number || s.number ≤ n), s.setSpan place behind)
      match stop with
      | .line n => upTo n
      | .further n => upTo (s.number + n)
      | .multiple n => upTo (if n = 0 then s.number else (s.number / n + 1) * n)
      | .last =>
        let (isEnd, s) := s.isLast x
        (true, s.setSpan place (if isEnd then behind else .within none))
      | .matching _ => (true, s.setSpan place (.within none))

def selects (x : Setting) (place : Nat) (i : Instruction) (s : State) : Bool × State :=
  let (b, s) := match i.choice with
    | .all => (true, s)
    | .one a => s.isAt x a
    | .range start stop => s.isInRange x place start stop
  (b != i.isNegated, s)

/-! ## Commands -/

/-- Runs a text as a script of the shell, and takes its output. -/
def runScript (x : Setting) (script : List UInt8) (s : State) : List UInt8 × State :=
  let errand : Errand :=
    { words := ["sh", "-c", Text.Octets.ofBytes script]
      environment := x.supply.environment
      input := .ok []
      files := s.progress.files
      directory := x.supply.directory }
  match x.supply.launch errand with
  | .error _ => ([], s)
  | .ok e =>
    let others := (e.written.filter (·.1 ≠ 1)).reverse
    (e.stream 1, { s with progress :=
      { s.progress with files := e.files, written := others ++ s.progress.written } })

/-- Replaces matches in the line. -/
def substitute (x : Setting) (r : Substitution) (s : State) : State :=
  match r.pattern <|> s.used with
  | none => s.die x 1 "-e expression #1, char 0: no previous regular expression"
  | some pattern =>
    let s := { s with used := some pattern }
    match replace? pattern r s.space.bytes with
    | none => s
    | some bytes =>
      let s := { s with space := { s.space with bytes }, replaced := true }
      let s := if !r.runs then s
        else
          let (output, s) := s.runScript x bytes
          let output := if output.getLast? = some x.terminator then output.dropLast else output
          { s with space := { s.space with bytes := output } }
      let s := if r.prints then s.printLine x s.space else s
      r.file.elim s fun name => s.putLine x false name s.space

/-- Where a command goes on. -/
inductive Way where
  | on
  | to (place : Nat)
  | finish
  | drop

/-- Runs a command. -/
def perform (x : Setting) (place : Nat) (i : Instruction) (s : State) : Way × State :=
  let bytes := s.space.bytes
  let set (bytes : List UInt8) (s : State) : State := { s with space := { s.space with bytes } }
  let firstPart := bytes.takeWhile (· ≠ x.terminator)
  let firstLine : Line := if firstPart.length < bytes.length then ⟨firstPart, true⟩ else s.space
  let shownText (text : List UInt8) : List UInt8 :=
    if text.isEmpty then [] else text.dropLast ++ [x.terminator]
  match i.command with
  | .block _ | .nothing => (.on, s)
  | .append text => (.on, { s with later := s.later ++ [.text text] })
  | .insert text => (.on, s.print x (shownText text))
  | .change text =>
    let isInside := match i.choice with
      | .range start _ =>
        match s.spanAt place start with
        | .within _ => true
        | _ => false
      | _ => false
    (.drop, if isInside && !i.isNegated then s else s.print x (shownText text))
  | .jump target => (.to target, s)
  | .jumpIf wanted target =>
    if s.replaced = wanted then (.to target, { s with replaced := false })
    else (.on, { s with replaced := false })
  | .delete => (.drop, s)
  | .deleteFirst =>
    if firstPart.length = bytes.length then (.drop, s)
    else (.drop, { set (bytes.drop (firstPart.length + 1)) s with keepsSpace := true })
  | .run script =>
    if script.isEmpty then
      let (output, s) := s.runScript x bytes
      let output := if output.getLast? = some x.terminator then output.dropLast else output
      (.on, set output s)
    else
      let (output, s) := s.runScript x (Text.Octets.toBytes script)
      (.on, s.print x output)
  | .showName => (.on, s.print x (Text.Octets.toBytes s.name ++ [x.terminator]))
  | .takeHeld appends =>
    let bytes := if appends then bytes ++ x.terminator :: s.held.bytes else s.held.bytes
    (.on, { s with space := { s.held with bytes } })
  | .hold appends =>
    let bytes := if appends then s.held.bytes ++ x.terminator :: bytes else bytes
    (.on, { s with held := { s.space with bytes } })
  | .exchange => (.on, { s with space := s.held, held := s.space })
  | .list width => (.on, s.print x (listed x.terminator (width.getD x.width) bytes))
  | .next =>
    let (isEnd, s) := s.isLast x
    if isEnd then (if x.isStrict then .drop else .finish, s)
    else
      let s := if x.isQuiet then s else s.printLine x s.space
      match s.readNext x false with
      | (some s, _) => (.on, s)
      | (none, s) => (.drop, { s with ended := some s.progress.status })
  | .nextAppend =>
    let (isEnd, s) := s.isLast x
    if isEnd then (if x.isStrict then .drop else .finish, s)
    else
      match s.readNext x true with
      | (some s, _) => (.on, s)
      | (none, s) => (.finish, { s with ended := some s.progress.status })
  | .print => (.on, s.printLine x s.space)
  | .printFirst => (.on, s.printLine x firstLine)
  | .quit status prints =>
    let space := { s.space with hasEnd := true }
    (if prints then .finish else .drop, { s with ended := some status, space })
  | .readFile name => (.on, { s with later := s.later ++ [.file name] })
  | .readLine name =>
    let lines := (s.readers.lookup name).getD (linesOfBytes x.terminator (s.contents x name))
    match lines with
    | [] => (.on, s)
    | line :: lines =>
      let text := line.bytes ++ if line.hasEnd then [x.terminator] else []
      (.on, { s with
        later := s.later ++ [.text text]
        readers := (name, lines) :: s.readers.filter (·.1 ≠ name) })
  | .substitute r => (.on, s.substitute x r)
  | .write name onlyFirst =>
    (.on, s.putLine x false name (if onlyFirst then firstLine else s.space))
  | .showNumber => (.on, s.print x (Text.Octets.toBytes (toString s.number) ++ [x.terminator]))
  | .translate pairs => (.on, set (bytes.map fun b => (pairs.lookup b).getD b) s)
  | .clear => (.on, set [] s)

/-- Runs the commands of the script from one of them on. -/
def turn (x : Setting) : (fuel : Nat) → (place : Nat) → State → Way × State
  | 0, _, s => (.drop, { s with ended := some 4 })
  | fuel + 1, place, s =>
    match x.script.instructions[place]? with
    | none => (.finish, s)
    | some i =>
      let (isSelected, s) := s.selects x place i
      if s.ended.isSome then (.drop, s)
      else if !isSelected then
        match i.command with
        | .block stop => turn x fuel stop s
        | _ => turn x fuel (place + 1) s
      else
        match s.perform x place i with
        | (.on, s) => if s.ended.isSome then (.drop, s) else turn x fuel (place + 1) s
        | (.to target, s) => turn x fuel target s
        | (way, s) => (way, s)

def turnLimit : Nat := 10000000

/-- Runs the script on line after line. -/
def run (x : Setting) : (fuel : Nat) → State → State
  | 0, s => s
  | fuel + 1, s =>
    let next? := if s.keepsSpace then some { s with keepsSpace := false }
      else
        match s.readNext x false with
        | (some s, _) => some s
        | (none, _) => none
    match next? with
    | none => if s.ended.isSome then s else (s.readNext x false).2
    | some s =>
      let (way, s) := s.turn x turnLimit 0
      let s := match way with
        | .finish => if x.isQuiet then s else s.printLine x s.space
        | _ => s
      let s := s.flushLater x
      if s.ended.isSome then s else run x fuel s

end State

/-! ## The program -/

def table : OptionTable where
  letters := "bsnrzuEe:f:l:i::V:"
  names := [("binary", .nothing, "b"), ("regexp-extended", .nothing, "r"),
    ("debug", .nothing, "debug"), ("in-place", .perhaps, "i"), ("expression", .value, "e"),
    ("file", .value, "f"), ("line-length", .value, "l"), ("null-data", .nothing, "z"),
    ("zero-terminated", .nothing, "z"), ("quiet", .nothing, "n"), ("posix", .nothing, "p"),
    ("silent", .nothing, "n"), ("sandbox", .nothing, "sandbox"), ("separate", .nothing, "s"),
    ("unbuffered", .nothing, "u"), ("follow-symlinks", .nothing, "F")]
  usage := "[OPTION]... \x7bscript-only-if-no-other-script\x7d [input-file]..."
  version := "(GNU sed) 4.9"

/-- What is printed on how the program is used. -/
def help (name : String) : String :=
  "Usage: " ++ name ++ " " ++ table.usage ++ "\n\n" ++
  "  -n, --quiet, --silent\n                 suppress automatic printing of pattern space\n" ++
  "      --debug\n                 annotate program execution\n" ++
  "  -e script, --expression=script\n" ++
  "                 add the script to the commands to be executed\n" ++
  "  -f script-file, --file=script-file\n" ++
  "                 add the contents of script-file to the commands to be executed\n" ++
  "  --follow-symlinks\n                 follow symlinks when processing in place\n" ++
  "  -i[SUFFIX], --in-place[=SUFFIX]\n" ++
  "                 edit files in place (makes backup if SUFFIX supplied)\n" ++
  "  -l N, --line-length=N\n" ++
  "                 specify the desired line-wrap length for the \x60l' command\n" ++
  "  --posix\n                 disable all GNU extensions.\n" ++
  "  -E, -r, --regexp-extended\n" ++
  "                 use extended regular expressions in the script\n" ++
  "                 (for portability use POSIX -E).\n" ++
  "  -s, --separate\n" ++
  "                 consider files as separate rather than as a single,\n" ++
  "                 continuous long stream.\n" ++
  "      --sandbox\n                 operate in sandbox mode (disable e/r/w commands).\n" ++
  "  -u, --unbuffered\n" ++
  "                 load minimal amounts of data from the input files and flush\n" ++
  "                 the output buffers more often\n" ++
  "  -z, --null-data\n                 separate lines by NUL characters\n" ++
  "      --help     display this help and exit\n" ++
  "      --version  output version information and exit\n\n" ++
  "If no -e, --expression, -f, or --file option is given, then the first\n" ++
  "non-option argument is taken as the sed script to interpret.  All\n" ++
  "remaining arguments are names of input files; if no input files are\n" ++
  "specified, then the standard input is read.\n\n"

/-- The parts of the script that options and words give, and the files. -/
def chunksOf (o : Options) (s : Supply) : Except String (List Chunk × List String) := do
  let given := o.given.filter fun x => x.1 = "e" || x.1 = "f"
  if given.isEmpty then
    match o.words with
    | [] => return ([], [])
    | text :: files => return ([{ text }], files)
  else
    let chunks ← given.mapM fun (key, text) =>
      if key = "e" then .ok { text }
      else
        match (if text = "-" then s.input else (s.source text).contents) with
        | .ok bytes => .ok { text := Text.Octets.ofBytes bytes, file := some text }
        | .error .isDirectory =>
          .error ("couldn't read " ++ text ++ ": " ++ FileError.isDirectory.reason)
        | .error e => .error ("couldn't open file " ++ text ++ ": " ++ e.reason)
    return (chunks, o.words)

def openAll (s : Supply) (files : List String) : Except String Progress :=
  files.foldlM (fun p name =>
    if name = State.mainOutput || name = "/dev/stderr" then .ok p
    else
      (s.store name false [] p).mapError fun e =>
        "couldn't open file " ++ name ++ ": " ++ e.reason) (Progress.start s)

/-- Runs a script on some files. -/
def runOn (x : Setting) (files : List String) : Ending :=
  let files := if files.isEmpty then ["-"] else files
  let input := x.supply.inputBytes
  match openAll x.supply x.script.files with
  | .error e => x.supply.fail 4 e
  | .ok progress =>
    let readsInput := files.any (· = "-")
    let bound := input.length + Number.total (files.map fun name =>
      ((x.supply.source name).contents.toOption.getD []).length + 1) + 2
    let s := State.run x (2 * bound)
      { progress, files, unread := input.length }
    let s := if s.isOpen && x.backup.isSome && s.progress.status ≠ 4 then s.closeFile x else s
    let status := match s.ended with
      | some n => if n = 0 then s.progress.status else n
      | none => s.progress.status
    let e := (s.progress.write 1 s.output.reverse.flatten).ending
    { e with
      status := .code status
      consumed := if !readsInput then 0
        else if x.supply.isFile then input.length - s.unread else input.length }

end Edit

/-- Edits lines by a script. -/
def sed : Tool := fun s =>
  let usage (text : String) : Ending :=
    { s.finish 1 with written := [(2, Text.Octets.toBytes (text ++ Edit.help s.name))] }
  match Options.read Edit.table s.args with
  | .error .help => { s.finish 0 with written := [(1, Text.Octets.toBytes (Edit.help s.name))] }
  | .error .version => s.version Edit.table
  | .error (.wrong e) => usage (s.name ++ ": " ++ e ++ "\n")
  | .ok o =>
    let hasScript := o.has "e" || o.has "f" || !o.words.isEmpty
    if !hasScript then usage ""
    else
      match Edit.chunksOf o s with
      | .error e => s.fail 4 e
      | .ok (chunks, files) =>
        let m : Edit.Mode :=
          { isExtended := o.has "r" || o.has "E", isRestricted := o.has "sandbox",
            isStrict := o.has "p" }
        match Edit.Script.ofChunks m chunks with
        | .error d =>
          match Edit.openAll s d.files with
          | .error e => s.fail 4 e
          | .ok p => (p.complain s d.status d.text).ending
        | .ok script =>
          if o.has "i" && files.isEmpty then
            match Edit.openAll s script.files with
            | .error e => s.fail 4 e
            | .ok p => (p.complain s 4 "no input files").ending
          else
            let digits := ((o.value? "l").getD "70").toList.takeWhile Char.isDigit
            Edit.runOn
              { supply := s
                script
                isQuiet := o.has "n" || script.isQuiet
                isSeparate := o.has "s" || o.has "i"
                backup := o.value? "i"
                width := digits.foldl (fun n c => n * 10 + (c.toNat - '0'.toNat)) 0
                terminator := if o.has "z" then 0 else 0x0A
                isStrict := o.has "p" } files

end Gutter.Shell.Tool
