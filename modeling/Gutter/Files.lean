import Gutter.Files.Error
import Gutter.Files.System

/-!
# Files

The files below the directory in which the program is started, and what else there is on the system.
A directory exists as long as there is a file below it. The user of the files may do everything with
them, but a file is a program only if it is marked as one.
-/

namespace Gutter

/-- What is known of the files. Of two entries for one location the first counts, and only rights
and times that are not the usual ones are kept. -/
structure Files where
  entries : List (Location × Node)
  directories : List Location
  modes : List (Location × Nat) := []
  times : List (Location × Int) := []

/-- Something that can be started. -/
inductive Executable where
  | program (name : String)
  | script (contents : List UInt8)
  deriving DecidableEq, Repr

namespace Files

def empty : Files := { entries := [], directories := [] }

/-! ## What there is -/

def isBelow (l top : Location) : Bool := l.take top.length = top

/-- What is at a location. -/
def node? (files : Files) (l : Location) : Option Node :=
  match (files.entries.find? (fun x => x.1 = l)).map Prod.snd with
  | some node => some node
  | none =>
    match systemNode? l with
    | some node => some node
    | none =>
      if files.directories.contains l || files.entries.any (fun x => isBelow x.1 l) then some .directory
      else none

def isDirectory (files : Files) (l : Location) : Bool := files.node? l = some .directory

def contents? (files : Files) (l : Location) : Option (List UInt8) :=
  match files.node? l with
  | some (.file contents) => some contents
  | _ => none

/-- The names in a directory, in their order. -/
def children (files : Files) (l : Location) : List Name :=
  let below (x : Location) : Option Name := if isBelow x l then x[l.length]? else none
  let programs := programNames.map fun name => Location.programs ++ [Text.Utf8.encode name]
  let known := Location.home :: Location.systemDirectories ++ Location.systemLinks.map Prod.fst ++
    Location.devices.map Prod.fst ++ programs
  let made := files.directories ++ files.entries.map Prod.fst
  ((known ++ made).filterMap below).eraseDups.mergeSort

/-- The rights to what is at a location. -/
def mode (files : Files) (l : Location) : Nat :=
  match files.modes.lookup l, files.node? l with
  | some mode, _ => mode
  | none, some (.file _) => 0o644
  | none, some (.device _) => 0o666
  | none, some (.link _) => 0o777
  | none, _ => if l = Location.ofPath "/tmp" || l = Location.ofPath "/var/tmp" then 0o1777 else 0o755

/-! ## Changes -/

def put (l : Location) (node : Node) (files : Files) : Files :=
  { files with entries := (l, node) :: files.entries.filter fun x => x.1 ≠ l }

/-- Puts a file in place. What was known about the rights to it lasts, but not its time. -/
def insert (l : Location) (contents : List UInt8) (files : Files) : Files :=
  { files.put l (.file contents) with times := files.times.filter (·.1 ≠ l) }

def makeDirectory (l : Location) (files : Files) : Files :=
  { files with directories := l :: files.directories }

def setMode (l : Location) (mode : Nat) (files : Files) : Files :=
  { files with modes := (l, mode) :: files.modes.filter (·.1 ≠ l) }

/-- Puts a file in place; a new one gets some rights. -/
def create (mode : Nat) (l : Location) (contents : List UInt8) (files : Files) : Files :=
  let isNew := (files.node? l).isNone
  let files := files.insert l contents
  if isNew && mode ≠ files.mode l then files.setMode l mode else files

def setTime (l : Location) (time : Int) (files : Files) : Files :=
  { files with times := (l, time) :: files.times.filter (·.1 ≠ l) }

/-- Takes a file or directory away, with all that is in it. The directory around it stays. -/
def erase (l : Location) (files : Files) : Files :=
  { entries := files.entries.filter fun x => !isBelow x.1 l
    directories := l.dropLast :: files.directories.filter fun x => !isBelow x l
    modes := files.modes.filter fun x => !isBelow x.1 l
    times := files.times.filter fun x => !isBelow x.1 l }

/-- Lets what is at a location, with all that is in it, be at another one. What was there before is
gone. -/
def move (old new : Location) (files : Files) : Files :=
  let moved (l : Location) : Location := if isBelow l old then new ++ l.drop old.length else l
  let others := if isBelow old new then files else files.erase new
  { entries := others.entries.map fun x => (moved x.1, x.2)
    directories := old.dropLast :: others.directories.map moved
    modes := others.modes.map fun x => (moved x.1, x.2)
    times := others.times.map fun x => (moved x.1, x.2) }

def names (p : Path) : Location :=
  p.components.filterMap fun
    | .normal name => some name
    | _ => none

def ofList (files : List (Path × List UInt8)) : Files :=
  files.foldl (fun fs x => fs.insert (Location.home ++ names x.1) x.2) empty

/-! ## Paths -/

def nameLimit : Nat := 255

def pathLimit : Nat := 4095

def linkLimit : Nat := 40

/-- Follows a path from a directory; `jump` follows the path of a link. Whether a link at the end is
followed is left open. -/
def walk (files : Files) (jump : Location → List Path.Component → Except FileError Location)
    (followsLast : Bool) : Location → List Path.Component → Except FileError Location
  | here, [] => .ok here
  | _, .root :: cs => files.walk jump followsLast [] cs
  | here, c :: cs =>
    match files.node? here with
    | none => .error .notFound
    | some .directory =>
      match c with
      | .root | .current => files.walk jump followsLast here cs
      | .parent => files.walk jump followsLast here.dropLast cs
      | .normal name =>
        if nameLimit < name.length then .error .nameTooLong
        else
          match files.node? (here ++ [name]) with
          | some (.link target) =>
            if cs.isEmpty && !followsLast then .ok (here ++ [name])
            else jump here (target.components ++ cs)
          | _ => files.walk jump followsLast (here ++ [name]) cs
    | some _ => .error .notDirectory

def follow (files : Files) (followsLast : Bool) :
    (limit : Nat) → Location → List Path.Component → Except FileError Location
  | 0 => fun _ _ => .error .tooManyLinks
  | limit + 1 => files.walk (files.follow followsLast limit) followsLast

def wantsDirectory (p : Path) : Bool :=
  match p.bytes.reverse with
  | 0x2F :: _ | 0x2E :: 0x2F :: _ | 0x2E :: 0x2E :: 0x2F :: _ => true
  | bytes => bytes = [0x2E] || bytes = [0x2E, 0x2E]

/-- The location that a path names, seen from a directory. -/
def locateAs (files : Files) (followsLast : Bool) (here : Location) (p : Path) :
    Except FileError Location :=
  if p.bytes.any (· = 0) then .error .zeroInName
  else if p.bytes.isEmpty then .error .notFound
  else if pathLimit < p.bytes.length then .error .nameTooLong
  else files.follow (followsLast || wantsDirectory p) (linkLimit + 1) here p.components

def locate (files : Files) (here : Location) (p : Path) : Except FileError Location :=
  files.locateAs true here p

/-- What a path names, seen from a directory. -/
def lookupAs (files : Files) (followsLast : Bool) (here : Location) (p : Path) :
    Except FileError (Location × Node) := do
  let l ← files.locateAs followsLast here p
  match files.node? l with
  | none => .error .notFound
  | some .directory => .ok (l, .directory)
  | some node => if wantsDirectory p then .error .notDirectory else .ok (l, node)

/-- What a path names, seen from a directory; a link at its end is followed. -/
def lookup (files : Files) (here : Location) (p : Path) : Except FileError (Location × Node) :=
  files.lookupAs true here p

/-- What a path names, seen from a directory; a link at its end is not followed. -/
def lookupLink (files : Files) (here : Location) (p : Path) : Except FileError (Location × Node) :=
  files.lookupAs false here p

/-- The contents of what a path names. What is open is empty here. -/
def read (files : Files) (here : Location) (p : Path) : Except FileError (List UInt8) := do
  match (← files.lookup here p).2 with
  | .file contents => .ok contents
  | .directory => .error .isDirectory
  | .link _ => .error .tooManyLinks
  | .device .terminal => .error .noDevice
  | .device _ | .stream _ => .ok []
  | .program name => .ok (programContents name)

def readText (files : Files) (here : Location) (p : Path) : Except FileError String := do
  match Text.Utf8.decode? (← files.read here p) with
  | some text => .ok text
  | none => .error .notUtf8

/-- The location at which a path lets a file be written: that of a file, or a new one in a
directory. -/
def target (files : Files) (here : Location) (p : Path) : Except FileError Location := do
  let l ← files.locate here p
  match files.node? l with
  | some .directory => .error .isDirectory
  | some _ => if wantsDirectory p then .error .notDirectory else .ok l
  | none =>
    if !files.isDirectory l.dropLast then .error .notFound
    else if wantsDirectory p then .error .isDirectory
    else .ok l

/-! ## Programs -/

def isExecutable (files : Files) (l : Location) : Bool := files.mode l &&& 0o111 ≠ 0

/-- What can be started that a path names. -/
def executable (files : Files) (here : Location) (path : Path) : Except FileError Executable := do
  match ← files.lookup here path with
  | (_, .program name) => .ok (.program name)
  | (l, .file contents) =>
    if !files.isExecutable l then .error .denied
    else .ok ((programOf? contents).elim (.script contents) .program)
  | _ => .error .denied

/-- The path of something that can be started and has a name, looked for in some directories, of
which an empty one stands for the directory `here`. What is missing or cannot be started is passed
over; it is only remembered that something was there. -/
def search (files : Files) (here : Location) (name : List UInt8) :
    (wasDenied : Bool) → (last : FileError) → List (List UInt8) → Except FileError Path
  | wasDenied, last, [] => .error (if wasDenied then .denied else last)
  | wasDenied, _, directory :: others =>
    let path : Path := ⟨if directory.isEmpty then name else directory ++ 0x2F :: name⟩
    match files.executable here path with
    | .ok _ => .ok path
    | .error .denied => files.search here name true .denied others
    | .error .notFound => files.search here name wasDenied .notFound others
    | .error .notDirectory => files.search here name wasDenied .notDirectory others
    | .error e => .error e

def searchPath : String := "/usr/local/sbin:/usr/local/bin:/usr/sbin:/usr/bin:/sbin:/bin"

/-- The path of what a command starts: a name without a slash is looked for, any other one is a
path. -/
def find (files : Files) (here : Location) (path : List UInt8) (name : List UInt8) :
    Except FileError Path :=
  if name.isEmpty then .error .notFound
  else if 0x2F ∈ name then do
    let _ ← files.executable here ⟨name⟩
    return ⟨name⟩
  else files.search here name false .notFound (path.splitOn 0x3A)

end Files

end Gutter
