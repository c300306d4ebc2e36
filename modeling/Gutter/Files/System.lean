import Gutter.Path

/-!
# The system

The part of the files that is the same everywhere: directories, devices, links and programs.
-/

namespace Gutter

abbrev Name := List UInt8

/-- Where something is: the names on the way to it from the root. -/
abbrev Location := List Name

/-- A device. -/
inductive Device where
  | null
  | zero
  | full
  | terminal
  deriving DecidableEq, Repr

/-- What can be found at a location. A link is followed from the directory around it, and a stream
is what a process has open under a number. -/
inductive Node where
  | file (contents : List UInt8)
  | directory
  | link (target : Path)
  | device (d : Device)
  | stream (n : Nat)
  | program (name : String)
  deriving DecidableEq, Repr

namespace Location

def ofNames (names : List String) : Location := names.map Text.Utf8.encode

def ofPath (path : String) : Location := ofNames ((path.splitOn "/").filter (· ≠ ""))

def home : Location := ofNames ["tmp", "home"]

/-- The directories of the system that are always there. -/
def systemDirectories : List Location :=
  ["/boot", "/dev", "/dev/fd", "/dev/pts", "/dev/shm", "/etc", "/home", "/media", "/mnt", "/opt",
    "/proc", "/proc/self", "/proc/self/fd", "/root", "/run", "/srv", "/sys", "/tmp", "/usr",
    "/usr/bin", "/usr/games", "/usr/include", "/usr/lib", "/usr/local", "/usr/local/bin",
    "/usr/local/etc", "/usr/local/games", "/usr/local/include", "/usr/local/lib",
    "/usr/local/sbin", "/usr/local/share", "/usr/local/src", "/usr/sbin", "/usr/share", "/usr/src",
    "/var", "/var/cache", "/var/lib", "/var/local", "/var/log", "/var/opt", "/var/spool",
    "/var/tmp"].map ofPath

def systemLinks : List (Location × String) :=
  [("/bin", "usr/bin"), ("/sbin", "usr/sbin"), ("/lib", "usr/lib"),
    ("/dev/stdin", "/proc/self/fd/0"), ("/dev/stdout", "/proc/self/fd/1"),
    ("/dev/stderr", "/proc/self/fd/2"), ("/usr/bin/awk", "mawk"), ("/usr/bin/sh", "dash"),
    ("/var/run", "/run")].map fun x => (ofPath x.1, x.2)

def devices : List (Location × Device) :=
  [("/dev/null", .null), ("/dev/zero", .zero), ("/dev/full", .full),
    ("/dev/random", .zero), ("/dev/urandom", .zero), ("/dev/tty", .terminal)].map
    fun x => (ofPath x.1, x.2)

def streamDirectories : List Location := ["/dev/fd", "/proc/self/fd"].map ofPath

/-- The stream that a location stands for. -/
def stream? (l : Location) : Option Nat :=
  if l.dropLast ∈ streamDirectories then
    match (l.getLast?.bind Text.Utf8.decode?).map String.toList with
    | some [c] => if c.isDigit then some (c.toNat - '0'.toNat) else none
    | _ => none
  else none

def programs : Location := ofPath "/usr/bin"

end Location

/-- The programs of the system. -/
def programNames : List String :=
  ["[", "basename", "cat", "chmod", "comm", "cp", "cut", "dash", "dirname", "echo",
    "egrep", "env", "expand", "expr", "false", "fgrep", "fold", "grep", "head", "link", "ln",
    "ls", "mawk", "mkdir", "mktemp", "mv", "nl", "paste", "printenv", "printf", "pwd",
    "readlink", "realpath", "rev", "rm", "rmdir", "sed", "seq", "sleep", "sort", "tac",
    "tail", "tee", "test", "touch", "tr", "true", "truncate", "unexpand", "uniq", "unlink",
    "wc", "yes"]

def programStart : List UInt8 := [0x7F, 0x45, 0x4C, 0x46, 0x02, 0x01, 0x01, 0x00, 0xFF]

def programContents (name : String) : List UInt8 := programStart ++ Text.Utf8.encode name

def programOf? (contents : List UInt8) : Option String :=
  if programStart.isPrefixOf contents then
    programNames.find? fun name => Text.Utf8.encode name = contents.drop programStart.length
  else none

/-- What is at a location of the system. -/
def systemNode? (l : Location) : Option Node :=
  match Location.systemLinks.lookup l, Location.devices.lookup l, l.stream? with
  | some target, _, _ => some (.link (.ofString target))
  | _, some d, _ => some (.device d)
  | _, _, some n => some (.stream n)
  | none, none, none =>
    if l.isEmpty || l = Location.home || l ∈ Location.systemDirectories then some .directory
    else
      (programNames.find? fun name => l = Location.programs ++ [Text.Utf8.encode name]).map .program

end Gutter
