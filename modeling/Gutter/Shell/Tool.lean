import Gutter.Files
import Gutter.Linter.Failure
import Gutter.Shell.Quoting
import Gutter.Text.Octets

/-!
# Programs of the system

A program is a function of its arguments, its input and the files. All texts are bytes, each shown
as the character with its number.
-/

namespace Gutter.Shell

abbrev Written := List (Nat × List UInt8)

/-- How a program ends, and what it leaves behind. -/
structure Ending where
  status : ExitStatus := .code 0
  written : Written := []
  consumed : Nat := 0
  files : Files

namespace Ending

def stream (n : Nat) (e : Ending) : List UInt8 :=
  (e.written.filter fun x => x.1 = n).flatMap Prod.snd

end Ending

/-- What a program asks the system to start. -/
structure Errand where
  words : List String
  environment : List (String × String)
  input : Except FileError (List UInt8)
  files : Files
  directory : Location

/-- What a program works on. -/
structure Supply where
  name : String
  args : List String
  environment : List (String × String) := []
  input : Except FileError (List UInt8)
  streams : Nat → Except FileError (List UInt8) := fun _ => .error .notFound
  isFile : Bool := false
  hasOutput : Bool := true
  outputFile : Option (Location × Nat) := none
  files : Files
  directory : Location
  mask : Nat := 0o022
  launch : Errand → Except FileError Ending := fun _ => .error .notFound

abbrev Tool := Supply → Ending

def pathOf (name : String) : Path := ⟨Text.Octets.toBytes name⟩

namespace Supply

def finish (status : Nat) (s : Supply) : Ending := { status := .code status, files := s.files }

def complaint (s : Supply) (text : String) : List UInt8 :=
  Text.Octets.toBytes (s.name ++ ": " ++ text ++ "\n")

def fail (status : Nat) (text : String) (s : Supply) : Ending :=
  { s.finish status with written := [(2, s.complaint text)] }

def misuse (status : Nat) (text : String) (s : Supply) : Ending :=
  s.fail status (text ++ "\nTry '" ++ s.name ++ " --help' for more information.")

def print (text : String) (s : Supply) : Ending :=
  { s.finish 0 with written := [(1, Text.Octets.toBytes text)] }

end Supply

structure Refusal where
  text : String
  hasHint : Bool := false

namespace Supply

def refuse (status : Nat) (s : Supply) (r : Refusal) : Ending :=
  if r.hasHint then s.misuse status r.text else s.fail status r.text

end Supply

/-! ## Options -/

/-- What follows an option. -/
inductive Follower where
  | nothing
  | value
  | perhaps
  deriving DecidableEq, Repr

/-- The options that a program knows. -/
structure OptionTable where
  letters : String := ""
  names : List (String × Follower × String) := []
  endsAtWord : Bool := false
  usage : String := "[OPTION]..."
  version : String := "(GNU coreutils) 9.4"
  showsUsage : Bool := false

structure Options where
  given : List (String × String) := []
  words : List String := []

/-- Why options are not read to their end. -/
inductive Options.Stop where
  | help
  | version
  | wrong (text : String)

namespace OptionTable

def follower? (table : OptionTable) (c : Char) : Option Follower :=
  match table.letters.toList.dropWhile (· ≠ c) with
  | _ :: ':' :: ':' :: _ => some .perhaps
  | _ :: ':' :: _ => some .value
  | _ :: _ => if c = ':' then none else some .nothing
  | [] => none

def allNames (table : OptionTable) : List (String × Follower × String) :=
  table.names ++ [("help", .nothing, "help"), ("version", .nothing, "version")]

/-- The long name of which a text is the start. It must not be the start of several that mean
different things, unless it is one of them. -/
def longName (table : OptionTable) (text : String) :
    Except Options.Stop (String × Follower × String) :=
  let all := table.allNames
  match all.find? (·.1 = text), all.filter fun x => x.1.startsWith text with
  | some x, _ => .ok x
  | none, [] => .error (.wrong ("unrecognized option '--" ++ text ++ "'"))
  | none, x :: more =>
    if more.all fun y => y.2 = x.2 then .ok x
    else
      let isKnown (y : String × Follower × String) : Bool := y.1 = x.1 || y.2 ≠ x.2
      let names := ((x :: more).filter isKnown).map fun y => " '--" ++ y.1 ++ "'"
      .error (.wrong ("option '--" ++ text ++ "' is ambiguous; possibilities:" ++ String.join names))

end OptionTable

namespace Options

def has (key : String) (o : Options) : Bool := o.given.any (·.1 = key)

def value? (key : String) (o : Options) : Option String := o.given.reverse.lookup key

def last? (keys : List String) (o : Options) : Option (String × String) :=
  (o.given.filter fun x => x.1 ∈ keys).getLast?

def add (key value : String) (o : Options) : Options := { o with given := (key, value) :: o.given }

/-- Reads letters after a dash. The answer tells whether the value of the last of them is the next
argument. -/
def readLetters (table : OptionTable) :
    List Char → Except Stop (List (String × String) × Option String)
  | [] => .ok ([], none)
  | c :: cs =>
    match table.follower? c with
    | none => .error (.wrong ("invalid option -- '" ++ c.toString ++ "'"))
    | some .nothing => do
      let (more, last) ← readLetters table cs
      return ((c.toString, "") :: more, last)
    | some .perhaps => .ok ([(c.toString, String.ofList cs)], none)
    | some .value =>
      if cs.isEmpty then .ok ([], some c.toString) else .ok ([(c.toString, String.ofList cs)], none)

/-- Reads the arguments of a program; options can stand among the other words. `waiting` is an
option that takes the next argument, and how it is called in complaints. -/
def readFrom (table : OptionTable) :
    (waiting : Option (String × String)) → List String → Except Stop Options
  | none, [] => .ok {}
  | some (_, complaint), [] => .error (.wrong complaint)
  | some (key, _), arg :: args => return (← readFrom table none args).add key arg
  | none, arg :: args =>
    match arg.toList with
    | ['-', '-'] => .ok { words := args }
    | '-' :: '-' :: long =>
      let name := String.ofList (long.takeWhile (· ≠ '='))
      let value := long.drop (name.length + 1)
      let hasValue : Bool := name.length < long.length
      match table.longName name with
      | .error (.wrong text) =>
        .error (.wrong (if text.startsWith "unrecognized" then "unrecognized option '" ++ arg ++ "'"
          else if hasValue then text.replace ("'--" ++ name ++ "' is") ("'" ++ arg ++ "' is")
          else text))
      | .error stop => .error stop
      | .ok (name, follower, key) =>
        match follower, hasValue with
        | .nothing, true =>
          .error (.wrong ("option '--" ++ name ++ "' doesn't allow an argument"))
        | .value, false =>
          readFrom table (some (key, "option '--" ++ name ++ "' requires an argument")) args
        | _, _ =>
          if key = "help" then .error .help
          else if key = "version" then .error .version
          else return (← readFrom table none args).add key (String.ofList value)
    | '-' :: c :: cs => do
      let (given, last) ← readLetters table (c :: cs)
      let waiting := last.map fun key => (key, "option requires an argument -- '" ++ key ++ "'")
      let o ← readFrom table waiting args
      return { o with given := given ++ o.given }
    | _ =>
      if table.endsAtWord then .ok { words := arg :: args }
      else do
        let o ← readFrom table none args
        return { o with words := arg :: o.words }

def read (table : OptionTable) (args : List String) : Except Stop Options :=
  readFrom table none args

def choice (option : String) (groups : List (List String)) (text : String) :
    Except String String :=
  match groups.find? (·.any (· = text)), groups.filter (·.any (·.startsWith text)) with
  | some group, _ | none, [group] => .ok (group.headD "")
  | none, found =>
    let row (group : List String) : String :=
      "\n  - " ++ ", ".intercalate (group.map fun word => "'" ++ word ++ "'")
    .error ((if found.isEmpty then "invalid" else "ambiguous") ++ " argument " ++
      Quoting.word text ++ " for '" ++ option ++ "'\nValid arguments are:" ++
      String.join (groups.map row))

end Options

namespace Supply

def usage (table : OptionTable) (s : Supply) : Ending :=
  s.print ("Usage: " ++ s.name ++ " " ++ table.usage ++ "\n")

def version (table : OptionTable) (s : Supply) : Ending :=
  let name := String.ofList (s.name.toList.reverse.takeWhile (· ≠ '/')).reverse
  s.print (name ++ " " ++ table.version ++ "\n")

/-- Whether the only argument of a program asks for help or for its version; no other options are
known to it. -/
def onlyArgument? (s : Supply) : Option Ending :=
  if s.args = ["--help"] then some (s.usage {})
  else if s.args = ["--version"] then some (s.version {})
  else none

def withOptions (table : OptionTable) (status : Nat) (f : Options → Ending) (s : Supply) :
    Ending :=
  let isStrict := s.environment.any (·.1 = "POSIXLY_CORRECT")
  match Options.read { table with endsAtWord := table.endsAtWord || isStrict } s.args with
  | .ok o => f o
  | .error .help => s.usage table
  | .error .version => s.version table
  | .error (.wrong e) =>
    s.misuse status
      (if table.showsUsage then e ++ "\nUsage: " ++ s.name ++ " " ++ table.usage else e)

/-! ## Reading -/

/-- What a program reads: the name that is given for it, and its contents or why there are none. -/
structure Source where
  name : String
  contents : Except FileError (List UInt8)
  isInput : Bool := false
  isRegular : Bool := false
  isEndless : Bool := false

namespace Source

def bytes (x : Source) : List UInt8 := x.contents.toOption.getD []

def title (x : Source) : String := if x.name = "-" then "standard input" else x.name

end Source

def inputBytes (s : Supply) : List UInt8 := s.input.toOption.getD []

/-- What a program reads under a name, if it is not the input. -/
def source (name : String) (s : Supply) : Source :=
  match s.files.lookup s.directory (pathOf name) with
  | .ok (_, .stream 0) => { name, contents := s.input, isInput := true, isRegular := s.isFile }
  | .ok (_, .stream n) => { name, contents := s.streams n }
  | .ok (_, .file contents) => { name, contents := .ok contents, isRegular := true }
  | .ok (_, .program program) =>
    { name, contents := .ok (programContents program), isRegular := true }
  | .ok (_, .device d) =>
    { name, contents := s.files.read s.directory (pathOf name),
      isEndless := d = .zero || d = .full }
  | .ok _ => { name, contents := s.files.read s.directory (pathOf name) }
  | .error e => { name, contents := .error e }

/-- What is read under some names, the input for a dash or without names. The input is read once. -/
def sources (names : List String) (s : Supply) : List Source :=
  let rec go : (used : Bool) → List String → List Source
    | _, [] => []
    | used, name :: names =>
      let x := if name = "-" then
          { name, contents := s.input, isInput := true, isRegular := s.isFile }
        else s.source name
      if x.isInput then
        { x with contents := x.contents.map fun input => if used then [] else input } ::
          go true names
      else x :: go used names
  go false (if names.isEmpty then ["-"] else names)

def plainComplaint (x : Source) (e : FileError) : String :=
  Quoting.plainName x.name ++ ": " ++ e.reason

end Supply

/-! ## Progress -/

/-- What a program has done so far. What it has written stands with the last part first. -/
structure Progress where
  files : Files
  written : Written := []
  status : Nat := 0
  consumed : Nat := 0

namespace Progress

def start (s : Supply) : Progress := { files := s.files }

def write (stream : Nat) (bytes : List UInt8) (p : Progress) : Progress :=
  if bytes.isEmpty then p else { p with written := (stream, bytes) :: p.written }

def print (text : String) (p : Progress) : Progress := p.write 1 (Text.Octets.toBytes text)

/-- Complains; the program does not end well then. -/
def complain (s : Supply) (status : Nat) (text : String) (p : Progress) : Progress :=
  { p.write 2 (s.complaint text) with status }

def absorb (e : Ending) (p : Progress) : Progress :=
  { p with
    files := e.files
    written := e.written.reverse ++ p.written
    consumed := p.consumed + e.consumed }

def ending (p : Progress) : Ending :=
  { status := .code p.status, written := p.written.reverse, consumed := p.consumed,
    files := p.files }

end Progress

namespace Supply

/-- Writes bytes to what a path names: a file, which is started anew unless it keeps what it has, a
device or a stream. -/
def store (name : String) (keeps : Bool) (bytes : List UInt8) (s : Supply) (p : Progress) :
    Except FileError Progress := do
  match p.files.lookup s.directory (pathOf name) with
  | .ok (_, .stream n) => return p.write n bytes
  | .ok (_, .device .full) => if bytes.isEmpty then return p else throw .full
  | .ok (_, .device .terminal) => throw .noDevice
  | .ok (_, .device _) => return p
  | _ =>
    let l ← p.files.target s.directory (pathOf name)
    let old := if keeps then (p.files.contents? l).getD [] else []
    let mode := 0o666 &&& (0o777 ^^^ s.mask % 0o1000)
    return { p with files := p.files.create mode l (old ++ bytes) }

/-- The program goes through what it reads, one source after the other, and complains of each that
cannot be read. -/
def forEach {σ : Type} (sources : List Source) (status : Nat)
    (complain : Source → FileError → String)
    (step : Source → List UInt8 → σ × Progress → σ × Progress) (initial : σ) (s : Supply) :
    σ × Progress :=
  let consumed := if sources.any Source.isInput then s.inputBytes.length else 0
  sources.foldl (fun (a, p) x =>
    match x.contents with
    | .ok bytes => step x bytes (a, p)
    | .error e => (a, p.complain s status (complain x e))) (initial, { Progress.start s with consumed })

def mapEach (names : List String) (complain : Source → FileError → String)
    (f : List UInt8 → List UInt8) (s : Supply) : Ending :=
  (s.forEach (s.sources names) 1 complain (fun _ bytes (a, p) => (a, p.write 1 (f bytes)))
    ()).2.ending

end Supply

/-! ## Lines -/

def recordsOf (terminator : UInt8) (bs : List UInt8) : List (List UInt8) :=
  let rows := bs.splitOn terminator
  if rows.getLast? = some [] then rows.dropLast else rows

def linesOf (bs : List UInt8) : List (List UInt8) := recordsOf 0x0A bs

def ofRecords (terminator : UInt8) (rows : List (List UInt8)) : List UInt8 :=
  rows.flatMap (· ++ [terminator])

def ofLines (rows : List (List UInt8)) : List UInt8 := ofRecords 0x0A rows

def isCut (bs : List UInt8) : Bool := bs.getLast?.any (· ≠ 0x0A)

/-- The names of files that a program works on: its words, or those in a file, each with a zero byte
behind it. -/
def namesFrom (o : Options) (s : Supply) (complaint : String → FileError → String) :
    Except Refusal (List String) :=
  match o.value? "from", o.words with
  | none, words => .ok words
  | some _, word :: _ =>
    .error { text := "extra operand " ++ Quoting.word word ++
               "\nfile operands cannot be combined with --files0-from", hasHint := true }
  | some file, [] =>
    match (if file = "-" then s.input else (s.source file).contents) with
    | .ok bs => .ok ((recordsOf 0 bs).map Text.Octets.ofBytes)
    | .error e => .error { text := complaint file e }

def column (width : Nat) (n : Nat) : String :=
  let ds := Nat.toDigits 10 n
  String.ofList (List.replicate (width - ds.length) ' ' ++ ds)

end Gutter.Shell
