import Gutter.Files
import Gutter.Text.Octets

/-!
# Starting programs

Which program of the system runs when a path is started. A file that is marked as a program and
starts with a number sign and an exclamation mark names the program that reads it.
-/

namespace Gutter.Shell

/-- A program of the system that is started: its name in the system, the name by which it is called,
and its arguments. -/
structure Launch where
  program : String
  name : String
  args : List String
  deriving DecidableEq, Repr

namespace Launch

def readHeader? (contents : List UInt8) : Option (List UInt8 × Option (List UInt8)) :=
  let isBlank (b : UInt8) : Bool := b = 0x20 || b = 0x09
  match contents with
  | 0x23 :: 0x21 :: rest =>
    let line := ((rest.takeWhile (· ≠ 0x0A)).take 253).dropWhile isBlank
    let line := (line.reverse.dropWhile isBlank).reverse
    let path := line.takeWhile fun b => !isBlank b
    let arg := (line.drop path.length).dropWhile isBlank
    if path.isEmpty then none else some (path, if arg.isEmpty then none else some arg)
  | _ => none

def headerLimit : Nat := 5

/-- What runs when a path is started with some arguments. -/
def ofPath (files : Files) (here : Location) : (limit : Nat) → (path : Path) → (name : String) →
    List String → Except FileError Launch
  | 0, _, _, _ => .error .tooManyLinks
  | limit + 1, path, name, args => do
    match ← files.executable here path with
    | .program program => return { program, name, args }
    | .script contents =>
      match readHeader? contents with
      | none => .error .notExecutable
      | some (reader, arg) =>
        let texts := arg.toList.map Text.Octets.ofBytes
        ofPath files here limit ⟨reader⟩ (Text.Octets.ofBytes reader)
          (texts ++ Text.Octets.ofBytes path.bytes :: args)

def ofScript (path : Path) (args : List String) : Launch :=
  { program := "dash", name := "/bin/sh", args := Text.Octets.ofBytes path.bytes :: args }

def argumentLimit : Nat := 131072

/-- What runs when a path is started by a name. A file that is no program by itself is read by the
shell if that is said. -/
def start (files : Files) (here : Location) (path : Path) (name : String) (args : List String)
    (readsScripts : Bool) : Except FileError Launch := do
  let launch ← match ofPath files here headerLimit path name args with
    | .error .notExecutable =>
      if readsScripts then .ok (ofScript path args) else .error .notExecutable
    | found => found
  if (name :: args).any fun arg => argumentLimit < arg.length + 1 then .error .listTooLong
  else return launch

/-- What runs when a command is started, looked for in the directories of a path if its name has no
slash, and the path of what is started. -/
def find (files : Files) (here : Location) (searchPath name : String) (args : List String)
    (readsScripts : Bool) : Except FileError (Path × Launch) := do
  let path ← files.find here (Text.Octets.toBytes searchPath) (Text.Octets.toBytes name)
  return (path, ← start files here path name args readsScripts)

end Launch

end Gutter.Shell
