import Gutter.Machine
import Gutter.Shell.Start

/-!
# Starting linters

A linter is started like any other program, but in a directory and with variables of its own.
-/

namespace Gutter.Shell.Spawn

def hasZero (s : String) : Bool := s.toList.any (·.toNat = 0)

def containsZero (c : Command) (args : List String) : Bool :=
  hasZero c.program || args.any hasZero || c.env.pairs.any (fun x => hasZero x.1 || hasZero x.2) ||
    c.cwd.any (fun p => p.bytes.any (· = 0))

def sizeLimit : Nat := 131072

def isTooLong (c : Command) (args : List String) : Bool :=
  let words := c.program :: args ++ c.env.pairs.map fun x => x.1 ++ "=" ++ x.2
  words.any fun word => sizeLimit < word.utf8ByteSize + 1

def directory (c : Command) (files : Files) : Except FileError Location :=
  match c.cwd with
  | none => .ok Location.home
  | some p => do
    match ← files.lookup Location.home p with
    | (l, .directory) => .ok l
    | _ => .error .notDirectory

/-- The variables as the program gets them: the name ends at the first equals sign, and of several
variables of one name the last one counts. -/
def environment (c : Command) : List (String × String) :=
  (c.env.pairs.map fun x =>
    Builtin.splitAssignment (Text.Octets.ofText (x.1 ++ "=" ++ x.2))).reverse.map
      fun x => (x.1, x.2.getD "")

/-- Runs a program that can be started on an input. -/
def run (files : Files) (c : Command) (args : List String) (input : List UInt8) :
    Except FileError Finished := do
  let directory ← directory c files
  let given := environment c
  let usual := [("PATH", Files.searchPath), ("HOME", "/root")].filter fun x =>
    given.all (·.1 ≠ x.1)
  let environment := usual ++ given
  let searchPath := (environment.lookup "PATH").getD Files.searchPath
  let name := Text.Octets.ofText c.program
  let (_, l) ← Launch.find files directory searchPath name (args.map Text.Octets.ofText) false
  if isTooLong c args then .error .listTooLong
  else
    let e := start l environment input files directory
    return ⟨e.status, e.output, e.errors⟩

def child (files : Files) (c : Command) (args : List String) (input : List UInt8) :
    Except String Child :=
  if containsZero c args then .error "nul byte found in provided data"
  else
    match run files c args input with
    | .error e => .error e.message
    | .ok f => .ok ⟨.ok (), .ok f⟩

end Gutter.Shell.Spawn
