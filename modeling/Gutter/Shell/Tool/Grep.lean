import Gutter.Shell.Number
import Gutter.Shell.Pattern
import Gutter.Shell.Regex.Reader
import Gutter.Shell.Tool

/-!
# Searching lines

The program that looks for lines that match patterns, in files and below directories.
-/

namespace Gutter.Shell.Tool

namespace Search

/-! ## Matches -/

/-- Which lines are looked for. -/
structure Query where
  patterns : List Regex
  wholeWords : Bool := false
  wholeLines : Bool := false

def greatest? (p : Nat → Bool) (ns : List Nat) : Option Nat := (ns.filter p).max?

namespace Query

/-- Where the match stops that starts at a place. -/
def stopAt? (q : Query) (text : Array UInt8) (start : Nat) : Option Nat :=
  let stops := q.patterns.flatMap fun r =>
    (r.ends r.looksBack text { stop := start }).map Regex.Found.stop
  let isWordByte (i : Nat) : Bool := text[i]?.any ByteSet.word.contains
  if q.wholeLines then if start = 0 && text.size ∈ stops then some text.size else none
  else if q.wholeWords then
    if start > 0 && isWordByte (start - 1) then none
    else
      match stops.max? with
      | none => none
      | some longest =>
        if isWordByte longest then greatest? (fun n => start < n && !isWordByte n) stops
        else some longest
  else stops.max?

def findFrom (q : Query) (text : Array UInt8) : (count : Nat) → (start : Nat) → Option (Nat × Nat)
  | 0, _ => none
  | count + 1, start =>
    match q.stopAt? text start with
    | some stop => some (start, stop)
    | none => q.findFrom text count (start + 1)

def find? (q : Query) (text : Array UInt8) (start : Nat) : Option (Nat × Nat) :=
  q.findFrom text (text.size + 1 - start) start

def all (q : Query) (text : Array UInt8) : (fuel : Nat) → (start : Nat) → List (Nat × Nat)
  | 0, _ => []
  | fuel + 1, start =>
    match q.find? text start with
    | none => []
    | some (i, j) => if i < j then (i, j) :: q.all text fuel j else q.all text fuel (i + 1)

end Query

/-! ## What is printed -/

/-- What a line is in what is printed. -/
inductive Part where
  | selected
  | around
  | left
  deriving DecidableEq

/-- How what is found is shown. -/
structure Style where
  inverts : Bool := false
  before : Option Nat := none
  after : Option Nat := none
  separator : Option String := some "--"
  showsNumber : Bool := false
  showsOffset : Bool := false
  onlyMatches : Bool := false
  hasTabs : Bool := false
  endsNameWithZero : Bool := false
  hasColors : Bool := false
  terminator : UInt8 := 0x0A

namespace Style

def hasContext (y : Style) : Bool := y.before.isSome || y.after.isSome

def paint (y : Style) (code : String) (text : List UInt8) : List UInt8 :=
  if y.hasColors then
    Text.Octets.toBytes ("\x1B[" ++ code ++ "m\x1B[K") ++ text ++
      Text.Octets.toBytes "\x1B[m\x1B[K"
  else text

/-- What stands in front of a line or a match. -/
def head (y : Style) (name : Option String) (number offset : Nat) (mark : String) : List UInt8 :=
  let sign := y.paint "36" (Text.Octets.toBytes mark)
  let width := if y.hasTabs then 2 else 0
  let field (n : Nat) : List UInt8 := y.paint "32" (Text.Octets.toBytes (column width n)) ++ sign
  let title := match name with
    | some name =>
      y.paint "35" (Text.Octets.toBytes name) ++ (if y.endsNameWithZero then [0] else sign)
    | none => []
  let all := title ++ (if y.showsNumber then field number else []) ++
    (if y.showsOffset then field offset else [])
  if y.hasTabs && !all.isEmpty then all ++ [0x09] else all

def colored (y : Style) (text : Array UInt8) : (from_ : Nat) → List (Nat × Nat) → List UInt8
  | i, [] => Regex.Match.part text i text.size
  | i, (j, k) :: more =>
    Regex.Match.part text i j ++ y.paint "01;31" (Regex.Match.part text j k) ++
      y.colored text k more

/-- What is printed for a line. -/
def line (y : Style) (q : Query) (name : Option String) (part : Part) (number offset : Nat)
    (bytes : List UInt8) : List UInt8 :=
  let text := bytes.toArray
  let mark := if part = .selected then ":" else "-"
  let isMatch := (part = .selected) != y.inverts
  let matched := if isMatch && (y.onlyMatches || y.hasColors) then q.all text (text.size + 1) 0
    else []
  if y.onlyMatches then
    matched.flatMap fun (i, j) =>
      y.head name number (offset + i) mark ++
        y.paint "01;31" (Regex.Match.part text i j) ++ [y.terminator]
  else y.head name number offset mark ++ y.colored text 0 matched ++ [y.terminator]

end Style

/-! ## Lines -/

def limited : (limit : Nat) → List (Bool × List UInt8) → List (Bool × List UInt8)
  | _, [] => []
  | 0, lines => lines.map fun x => (false, x.2)
  | limit + 1, (isSelected, line) :: lines =>
    (isSelected, line) :: limited (if isSelected then limit else limit + 1) lines

def distances : List (Bool × List UInt8) → List (Option Nat)
  | [] => []
  | (isSelected, _) :: lines =>
    let rest := distances lines
    (if isSelected then some 0 else (rest.head?.join).map (· + 1)) :: rest

/-- What each line is in what is printed; `after` more lines are shown in any case. -/
def parts (y : Style) : (after : Nat) → List (Option Nat) → List Part
  | _, [] => []
  | after, d :: ds =>
    if d = some 0 then .selected :: parts y (y.after.getD 0) ds
    else if 0 < after || d.any (· ≤ y.before.getD 0) then .around :: parts y (after - 1) ds
    else .left :: parts y 0 ds

/-- What is printed for the lines of a file, the last of it first. `wasUsed` says that something has
been printed before, and `isNext` that the line follows one that was printed. -/
def render (y : Style) (q : Query) (name : Option String) :
    (wasUsed isNext : Bool) → (number offset : Nat) → List (Part × List UInt8) →
    (shown : List (List UInt8)) → Bool × List (List UInt8)
  | wasUsed, _, _, _, [], shown => (wasUsed, shown)
  | wasUsed, isNext, number, offset, (part, bytes) :: lines, shown =>
    let offsetBehind := offset + bytes.length + 1
    if part = .left then
      render y q name wasUsed false (number + 1) offsetBehind lines shown
    else
      let gap := match y.separator with
        | some text =>
          if y.hasContext && wasUsed && !isNext then
            y.paint "36" (Text.Octets.toBytes text) ++ [0x0A]
          else []
        | none => []
      render y q name true true (number + 1) offsetBehind lines
        ((gap ++ y.line q name part number offset bytes) :: shown)

/-! ## Files -/

/-- What is done with what is found in a file. -/
inductive Purpose where
  | lines
  | count
  | names
  | otherNames
  | none
  deriving DecidableEq

/-- How binary files are dealt with. -/
inductive Binary where
  | noted
  | asText
  | skipped
  deriving DecidableEq

/-- What is done. -/
structure Job where
  query : Query
  style : Style
  purpose : Purpose
  limit : Option Nat
  findsNothing : Bool
  binary : Binary
  isSilent : Bool
  showsName : Option Bool
  inputName : String

/-- How far the search has come. -/
structure Tally where
  progress : Progress
  found : Bool := false
  failed : Bool := false
  used : Bool := false
  isDone : Bool := false
  unread : Nat := 0

namespace Job

/-- Looks for lines in the contents of a file. -/
def scan (j : Job) (s : Supply) (name : String) (showsName isInput : Bool) (bytes : List UInt8)
    (t : Tally) : Tally :=
  let y := j.style
  let isBinary := 0 ∈ bytes && y.terminator = 0x0A && j.binary ≠ .asText
  if isBinary && j.binary = .skipped then t
  else
    let text := if isBinary then bytes.map fun b => if b = 0 then 0x0A else b else bytes
    let all := (recordsOf y.terminator text).map fun line =>
      ((j.query.find? line.toArray 0).isSome != y.inverts, line)
    let lines := j.limit.elim all fun n => limited n all
    let count := (lines.filter Prod.fst).length
    let t := { t with found := t.found || count > 0 }
    let title := if showsName then some name else none
    let print (bytes : List UInt8) (t : Tally) : Tally :=
      { t with progress := t.progress.write 1 bytes }
    let shownName := y.paint "35" (Text.Octets.toBytes name)
    let list (t : Tally) : Tally :=
      print (shownName ++ [if y.endsNameWithZero then 0 else 0x0A]) t
    match j.purpose with
    | .none => { t with isDone := count > 0 }
    | .names => if count > 0 then list t else t
    | .otherNames => if count > 0 then t else list t
    | .count =>
      let head := { y with showsNumber := false, showsOffset := false, hasTabs := false }.head
        title 0 0 ":"
      print (head ++ Text.Octets.toBytes (toString count ++ "\n")) t
    | .lines =>
      if isBinary then
        let note := s.complaint (name ++ ": binary file matches")
        if count > 0 && !j.isSilent then { t with progress := t.progress.write 2 note } else t
      else
        let (used, shown) := render y j.query title t.used false 1 0
          ((parts y 0 (distances lines)).zip (lines.map Prod.snd)) []
        let last := (lines.reverse.dropWhile fun x => !x.1).map fun x => x.2.length + 1
        let unread :=
          if isInput && s.isFile && j.limit = some count then bytes.length - Number.total last else 0
        { print shown.reverse.flatten t with used, unread }

def refuse (j : Job) (s : Supply) (name : String) (reason : String) (t : Tally) : Tally :=
  { t with
    failed := true
    progress := if j.isSilent then t.progress
      else t.progress.write 2 (s.complaint (name ++ ": " ++ reason)) }

def isOutput (j : Job) (s : Supply) (path : String) : Bool :=
  let location := (s.files.locate s.directory (pathOf path)).toOption
  j.purpose = .lines && s.outputFile.any fun x => location = some x.1

def scanFile (j : Job) (s : Supply) (showsName : Bool) (path : String) (t : Tally) : Tally :=
  let x := s.source path
  match x.contents with
  | .error e => j.refuse s path e.reason t
  | .ok bytes =>
    if x.isRegular && !x.isInput && j.isOutput s path then
      j.refuse s path "input file is also the output" t
    else j.scan s path showsName false bytes t

end Job

/-! ## Directories -/

/-- Which files and directories are passed over. -/
structure Choice where
  only : List String := []
  without : List String := []
  withoutDirectories : List String := []
  followsLinks : Bool := false

namespace Choice

def isAmong (name : String) (patterns : List String) : Bool :=
  patterns.any fun text => (Pattern.ofLetters 0 (Letter.ofString text false)).accepts name

def lastName (path : String) : String :=
  String.ofList ((path.toList.reverse.dropWhile (· = '/')).takeWhile (· ≠ '/')).reverse

def skips (c : Choice) (path : String) : Bool :=
  let name := lastName path
  isAmong name c.without || (!c.only.isEmpty && !isAmong name c.only)

end Choice

def depthLimit : Nat := 100

/-- Looks for lines in all files below a directory. -/
def scanBelow (j : Job) (s : Supply) (c : Choice) :
    (limit : Nat) → (place : Location) → (path : String) → Tally → Tally
  | 0, _, _, t => t
  | limit + 1, place, path, t =>
    (s.files.children place).foldl (fun t name =>
      let name := Text.Octets.ofBytes name
      let inner := if path.isEmpty then name
        else if path.endsWith "/" then path ++ name else path ++ "/" ++ name
      if t.isDone then t
      else
        match s.files.lookupAs c.followsLinks s.directory (pathOf inner) with
        | .ok (l, .directory) =>
          if Choice.isAmong name c.withoutDirectories then t else scanBelow j s c limit l inner t
        | .ok (_, .file _) =>
          if c.skips inner then t else j.scanFile s (j.showsName.getD true) inner t
        | _ => t) t

/-! ## Options -/

/-- The options of the program. -/
def table : OptionTable where
  letters := "0123456789A:B:C:D:EFGHILPTUVX:abcd:e:f:hiLlm:noqRrsuvwxyZz"
  names := [("basic-regexp", .nothing, "G"), ("extended-regexp", .nothing, "E"),
    ("fixed-regexp", .nothing, "F"), ("fixed-strings", .nothing, "F"),
    ("perl-regexp", .nothing, "P"), ("after-context", .value, "A"),
    ("before-context", .value, "B"), ("binary-files", .value, "binary-files"),
    ("binary", .nothing, "U"), ("byte-offset", .nothing, "b"), ("context", .value, "C"),
    ("color", .perhaps, "color"), ("colour", .perhaps, "color"), ("count", .nothing, "c"),
    ("devices", .value, "D"), ("directories", .value, "d"), ("exclude", .value, "exclude"),
    ("exclude-from", .value, "exclude-from"), ("exclude-dir", .value, "exclude-dir"),
    ("file", .value, "f"), ("files-with-matches", .nothing, "l"),
    ("files-without-match", .nothing, "L"), ("group-separator", .value, "separator"),
    ("include", .value, "include"), ("ignore-case", .nothing, "i"),
    ("no-ignore-case", .nothing, "no-ignore-case"), ("initial-tab", .nothing, "T"),
    ("label", .value, "label"), ("line-buffered", .nothing, "u"), ("line-number", .nothing, "n"),
    ("line-regexp", .nothing, "x"), ("max-count", .value, "m"), ("no-filename", .nothing, "h"),
    ("no-group-separator", .nothing, "no-separator"), ("no-messages", .nothing, "s"),
    ("null", .nothing, "Z"), ("null-data", .nothing, "z"), ("only-matching", .nothing, "o"),
    ("quiet", .nothing, "q"), ("recursive", .nothing, "r"),
    ("dereference-recursive", .nothing, "R"), ("regexp", .value, "e"),
    ("invert-match", .nothing, "v"), ("silent", .nothing, "q"), ("text", .nothing, "a"),
    ("unix-byte-offsets", .nothing, "u"), ("with-filename", .nothing, "H"),
    ("word-regexp", .nothing, "w")]
  usage := "[OPTION]... PATTERNS [FILE]..."
  version := "(GNU grep) 3.11"
  showsUsage := true

def contextSize (text : String) : Except String Nat :=
  match Number.size? "" text with
  | .ok n => .ok n
  | .error .tooLarge => .ok (Nat.pow 2 63)
  | .error .invalid => .error (text ++ ": invalid context length argument")

def contextOf (o : Options) (key : String) : Except String (Option Nat) := do
  let isDigit (x : String × String) : Bool := x.1.length = 1 && x.1.toList.all Char.isDigit
  let digits := String.join ((o.given.filter isDigit).map Prod.fst)
  match o.value? key, o.value? "C", digits with
  | some text, _, _ | none, some text, _ => return some (← contextSize text)
  | none, none, "" => return none
  | none, none, digits => return some (← contextSize digits)

/-- The patterns that are asked for, each with the file and the line that it comes from, if it comes
from a file. -/
def patternsOf (o : Options) (s : Supply) :
    Except Refusal (List (Option (String × Nat) × String) × List String) := do
  let given := o.given.filter fun x => x.1 = "e" || x.1 = "f"
  if given.isEmpty then
    match o.words with
    | [] =>
      .error { text := "Usage: " ++ s.name ++ " " ++ table.usage ++ "\nTry '" ++ s.name ++
                 " --help' for more information." }
    | text :: files => return ((text.splitOn "\n").map fun line => (none, line), files)
  else
    let lists ← given.mapM fun (key, text) =>
      if key = "e" then .ok ((text.splitOn "\n").map fun line => (none, line))
      else
        match (if text = "-" then s.input else (s.source text).contents) with
        | .error e => .error { text := text ++ ": " ++ e.reason }
        | .ok bytes =>
          .ok ((linesOf bytes).zipIdx.map fun (line, i) =>
            (some (text, i + 1), Text.Octets.ofBytes line))
    return (lists.flatten, o.words)

def readPattern (o : Options) (kind : String) (text : String) :
    Except Regex.Fault (Regex × List String) :=
  let ignoresCase := (o.last? ["i", "y", "no-ignore-case"]).any (·.1 ≠ "no-ignore-case")
  let d : Regex.Dialect := { ignoresCase }
  match kind with
  | "F" => .ok (.sequenceOf (text.toList.map (Regex.ofByte d)), [])
  | "E" =>
    Regex.ofText
      { d with isExtended := true, stray := .skipped, allowsClose := true, allowsBrace := true } text
  | _ => Regex.ofText d text

/-- What the options say on how to show what is found. -/
def styleOf (o : Options) (before after : Option Nat) : Style where
  inverts := o.has "v"
  before
  after
  separator := match o.last? ["separator", "no-separator"] with
    | some ("separator", text) => some text
    | some _ => none
    | none => some "--"
  showsNumber := o.has "n"
  showsOffset := o.has "b"
  onlyMatches := o.has "o"
  hasTabs := o.has "T"
  endsNameWithZero := o.has "Z"
  hasColors := o.value? "color" = some "always"
  terminator := if o.has "z" then 0 else 0x0A

/-- What the options say on what to do with directories: `some true` if they are gone into, `some
false` if they are passed over. -/
def directories (o : Options) : Except String (Option Bool) := do
  match o.last? ["r", "R", "d"] with
  | none => return none
  | some ("d", text) =>
    let word ← Options.choice "--directories" [["read"], ["recurse"], ["skip"]] text
    return if word = "recurse" then some true else if word = "skip" then some false else none
  | some _ => return some true

/-- Looks for lines that match one of some patterns. -/
def run (s : Supply) (kind : String) (o : Options) : Ending :=
  let plan : Except Refusal (Job × Choice × Option Bool × List String × List String) := do
    let refuse {α : Type} (x : Except String α) : Except Refusal α :=
      x.mapError fun text => { text }
    let before ← refuse (contextOf o "B")
    let after ← refuse (contextOf o "A")
    let limit ← match o.value? "m" with
      | none => pure none
      | some text =>
        match Number.size? "" text with
        | .ok n => pure (some n)
        | .error .tooLarge => pure none
        | .error .invalid =>
          if (Number.decimal? text).isSome then pure none
          else throw { text := "invalid max count" }
    let binary ← match o.last? ["a", "I", "binary-files"] with
      | none => pure Binary.noted
      | some ("a", _) | some (_, "text") => pure .asText
      | some ("I", _) | some (_, "without-match") => pure .skipped
      | some (_, "binary") => pure .noted
      | some _ => throw { text := "unknown binary-files type" }
    if (o.value? "D").any (· ∉ ["read", "skip"]) then throw { text := "unknown devices method" }
    let intoDirectories ← refuse (directories o)
    let (texts, files) ← patternsOf o s
    let read := texts.map fun (origin, text) => (origin, readPattern o kind text)
    let faults := read.filterMap fun (origin, x) =>
      match x with
      | .ok _ => none
      | .error f =>
        some (origin.elim "" (fun (file, n) => file ++ ":" ++ toString n ++ ": ") ++ f.message)
    if !faults.isEmpty then
      throw { text := ("\n" ++ s.name ++ ": ").intercalate faults }
    let good := read.filterMap fun x => x.2.toOption
    let purpose : Purpose :=
      if o.has "q" then .none
      else
        match o.last? ["l", "L"], o.has "c" with
        | some ("l", _), _ => .names
        | some _, _ => .otherNames
        | none, true => .count
        | none, false => .lines
    let patternFiles ← (o.given.filter (·.1 = "exclude-from")).mapM fun x =>
      match (s.source x.2).contents with
      | .ok bytes => .ok ((linesOf bytes).map Text.Octets.ofBytes)
      | .error e => .error { text := x.2 ++ ": " ++ e.reason }
    let values (key : String) : List String := (o.given.filter (·.1 = key)).map Prod.snd
    let isVain : Bool := (texts.map Prod.snd).eraseDups = [""] && o.has "v" && !o.has "w" &&
      !o.has "x"
    let findsNothing : Bool := (isVain || limit = some 0) && purpose ≠ .otherNames
    let job : Job :=
      { query := { patterns := good.map Prod.fst, wholeWords := o.has "w",
                   wholeLines := o.has "x" }
        style := styleOf o before after
        purpose
        limit
        findsNothing
        binary
        isSilent := o.has "s"
        showsName := (o.last? ["H", "h"]).map (·.1 = "H")
        inputName := (o.value? "label").getD "(standard input)" }
    let choice : Choice :=
      { only := values "include"
        without := values "exclude" ++ patternFiles.flatten
        withoutDirectories := values "exclude-dir"
        followsLinks := o.has "R" }
    return (job, choice, intoDirectories, files, good.flatMap Prod.snd)
  match plan with
  | .error r => if r.text.startsWith "Usage: " then
      { s.finish 2 with written := [(2, Text.Octets.toBytes (r.text ++ "\n"))] }
    else s.fail 2 r.text
  | .ok (j, c, intoDirectories, files, strays) =>
    let warnings := strays.flatMap fun sign =>
      s.complaint ("warning: " ++ sign ++ " at start of expression")
    let start : Tally := { progress := (Progress.start s).write 2 warnings }
    if j.findsNothing then { start.progress.ending with status := .code 1 }
    else
      let isBare := files.isEmpty
      let files := if !isBare then files
        else if intoDirectories = some true then [""] else ["-"]
      let showsName := j.showsName.getD (files.length > 1)
      let t := files.foldl (fun t file =>
        let (x, path) := if file = "-" then (s.input, j.inputName) else ((s.source file).contents, file)
        let place? := if file.isEmpty && isBare then some s.directory
          else if file = "-" then none
          else match s.files.lookup s.directory (pathOf file) with
            | .ok (l, .directory) => some l
            | _ => none
        if t.isDone then t
        else
          match place? with
          | some l =>
            if intoDirectories = some true then
              if Choice.isAmong (Choice.lastName file) c.withoutDirectories then t
              else scanBelow j s c depthLimit l file t
            else if intoDirectories = some false then t
            else
              let t := j.refuse s path FileError.isDirectory.reason t
              if j.purpose ∈ [.count, .otherNames] then j.scan s path showsName false [] t else t
          | none =>
            if file ≠ "-" && x.isOk && c.skips file then t
            else if file = "-" || (s.source file).isInput then
              match x with
              | .ok bytes => j.scan s path showsName true bytes t
              | .error e => j.refuse s path e.reason t
            else j.scanFile s showsName path t) start
      let status := if j.purpose = .none && t.found then 0
        else if t.failed then 2 else if t.found then 0 else 1
      let readsInput := files.any fun file => file = "-" || (s.source file).isInput
      { t.progress.ending with
        status := .code status
        consumed := if readsInput then s.inputBytes.length - t.unread else 0 }

end Search

/-- Looks for lines that match one of some patterns; `kind` says how they are written. -/
def grepAs (kind : String) : Tool := fun s =>
  s.withOptions Search.table 2 fun o =>
    let kinds := ((o.given.filter fun x => x.1 ∈ ["E", "F", "G", "P", "X"]).map Prod.fst).eraseDups
    if o.has "V" then s.version Search.table
    else if kinds.length > 1 then s.fail 2 "conflicting matchers specified"
    else Search.run s (kinds.head?.getD kind) o

def grep : Tool := grepAs "G"

end Gutter.Shell.Tool
