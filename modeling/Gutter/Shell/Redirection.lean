import Gutter.Shell.Number
import Gutter.Shell.State

/-!
# Redirections

What it means for the streams of a shell that a number is connected to a file, a device, a text or
what another number is connected to.
-/

namespace Gutter.Shell

structure Connection where
  stream : Nat
  mode : Mode
  target : String

namespace Connection

def complaint (c : Connection) (e : FileError) : String :=
  let reason := match c.mode, e with
    | .read, .notFound | .read, .notDirectory => "No such file"
    | _, .notFound | _, .notDirectory => "Directory nonexistent"
    | _, e => e.reason
  (if c.mode = .read then "cannot open " else "cannot create ") ++ c.target ++ ": " ++ reason

def connectNew (c : Connection) (stream : Stream) (s : State) : State :=
  let (i, s) := s.addStream stream
  s.connect c.stream (some i)

def duplicate (c : Connection) (n : Nat) (s : State) : State :=
  match s.descriptors.lookup n with
  | some i => s.connect c.stream (some i)
  | none => s.fail (toString n ++ ": Bad file descriptor")

def openFile (c : Connection) (l : Location) (s : State) : State :=
  let isThere := (s.files.node? l).isSome
  if c.mode = .write && s.has 'C' && isThere then s.fail (c.complaint .exists)
  else
    let keeps := c.mode = .append || c.mode = .readWrite
    let old := if keeps then (s.files.contents? l).getD [] else []
    let files := if keeps && isThere then s.files
      else s.files.create (0o666 &&& (0o777 ^^^ s.mask % 0o1000)) l old
    c.connectNew (.file l 0 c.mode) { s with files }

/-- Opens what a path names. -/
def openPath (c : Connection) (s : State) : State :=
  let path : Path := ⟨Text.Octets.toBytes c.target⟩
  let found := s.files.lookup s.directory path
  match found with
  | .ok (_, .device .terminal) => s.fail (c.complaint .noDevice)
  | .ok (_, .device d) => c.connectNew (.device d) s
  | .ok (_, .stream n) =>
    match s.stream? n with
    | none => s.fail (c.complaint .notFound)
    | some (_, .file l ..) =>
      if c.mode = .read then c.connectNew (.file l 0 .read) s else c.openFile l s
    | some _ => c.duplicate n s
  | found =>
    if c.mode = .read then
      match found with
      | .ok (l, .file _) => c.connectNew (.file l 0 .read) s
      | .ok (_, .program name) => c.connectNew (.source (programContents name)) s
      | .ok _ => c.connectNew .directory s
      | .error e => s.fail (c.complaint e)
    else
      match s.files.target s.directory path with
      | .ok l => c.openFile l s
      | .error e => s.fail (c.complaint e)

def establish (c : Connection) (s : State) : State :=
  match c.mode with
  | .document => c.connectNew (.source (Text.Octets.toBytes c.target)) s
  | .duplicate =>
    match Number.plain? c.target with
    | some n => c.duplicate n s
    | none => s.connect c.stream none
  | _ => c.openPath s

end Connection

def establishAll (cs : List Connection) (s : State) : State :=
  cs.foldl (fun s c => if s.isGoing then c.establish s else s) s

def restore (cs : List Connection) (before s : State) : State :=
  cs.foldl (fun s c => s.connect c.stream (before.descriptors.lookup c.stream)) s

end Gutter.Shell
