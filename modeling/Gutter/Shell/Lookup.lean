import Gutter.Shell.Builtin
import Gutter.Shell.Launch

/-!
# What the names of commands stand for

The paths of the programs that commands start, which are remembered once they are found, and what
can be said of the name of a command.
-/

namespace Gutter.Shell

namespace State

def searchPath (s : State) : String := (s.textOf? "PATH").getD ""

/-- What a command starts, and its path. Where a program has been found before, it is not looked for
again. -/
def program (name : String) (args : List String) (s : State) : Except FileError (Path × Launch) :=
  if name.isEmpty then .error .denied
  else
    match s.tracked.lookup name with
    | some path => do
      let path : Path := ⟨Text.Octets.toBytes path⟩
      return (path, ← Launch.start s.files s.directory path name args true)
    | none => Launch.find s.files s.directory s.searchPath name args true

def track (name : String) (path : Path) (s : State) : State :=
  if '/' ∈ name.toList || s.tracked.any (·.1 = name) then s
  else { s with tracked := s.tracked ++ [(name, Text.Octets.ofBytes path.bytes)] }

def lookFor (name : String) (s : State) : Except FileError State :=
  (s.program name []).map fun x => s.track name x.1

def foresee (script : Script) (s : State) : State :=
  match script with
  | .command _ _ ([.text name false] :: _) _ =>
    let isKnown := isBuiltin name || (s.definitions.lookup name).isSome
    if isName name && !isKnown then (s.lookFor name).toOption.getD s else s
  | _ => s

def refuse (name : String) (e : FileError) (s : State) : State :=
  let isMissing := e = .notFound || e = .notDirectory
  let status :=
    if isMissing || e = .nameTooLong || ('/' ∉ name.toList && e = .denied) then 127 else 126
  (s.complain (name ++ ": " ++ if isMissing then "not found" else e.reason)).finish status

end State

/-- What is said about a program that was ended by a signal. -/
def signalText (n : Nat) : Option String :=
  let names := ["", "Hangup", "", "Quit", "Illegal instruction", "Trace/breakpoint trap", "Aborted",
    "Bus error", "Floating point exception", "Killed", "User defined signal 1",
    "Segmentation fault", "User defined signal 2", "", "Alarm clock", "Terminated", "Stack fault",
    "Child exited", "Continued", "Stopped (signal)", "Stopped", "Stopped (tty input)",
    "Stopped (tty output)", "Urgent I/O condition", "CPU time limit exceeded",
    "File size limit exceeded", "Virtual timer expired", "Profiling timer expired",
    "Window changed", "I/O possible", "Power failure", "Bad system call"]
  match names[n]? with
  | some "" => none
  | some name => some name
  | none => some (if n < 34 then "Unknown signal " ++ toString n
      else "Real-time signal " ++ toString (n - 34))

namespace Builtin

/-- What the name of a command stands for, in a short form or in words. -/
def describe (isVerbose : Bool) (name : String) (s : State) : Option String :=
  let say (short long : String) : Option String := some (if isVerbose then name ++ long else short)
  let isThere := (s.files.lookup s.directory ⟨Text.Octets.toBytes name⟩).isOk
  if name ∈ Token.reservedWords then say name " is a shell keyword"
  else
    match s.aliases.lookup name with
    | some text => say ("alias " ++ aliasText (name, text)) (" is an alias for " ++ text)
    | none =>
      if (s.definitions.lookup name).isSome then say name " is a shell function"
      else if name ∈ specialCommands then say name " is a special shell builtin"
      else if isBuiltin name then say name " is a shell builtin"
      else if '/' ∈ name.toList then if isThere then say name (" is " ++ name) else none
      else
        match s.tracked.lookup name, s.program name [] with
        | some path, _ => say path (" is a tracked alias for " ++ path)
        | none, .ok (path, _) =>
          let path := Text.Octets.ofBytes path.bytes
          say path (" is " ++ path)
        | none, .error _ => none

def describeAll (isVerbose : Bool) : Action := fun names s =>
  names.foldl (fun s name =>
    match describe isVerbose name s with
    | some text => (print (text ++ "\n") s).finish s.status
    | none =>
      let answer := if isVerbose then name ++ ": not found\n" else ""
      (s.write 1 (Text.Octets.toBytes answer)).finish 127)
    (s.finish 0)

/-- Shows, forgets or adds programs whose paths are known. -/
def hash : Action :=
  withOptions ['r'] [] fun given names s =>
    if !given.isEmpty then { s.finish 0 with tracked := [] }
    else if names.isEmpty then
      print (String.join ((State.shelved 31 s.tracked).map fun x => x.2 ++ "\n")) s
    else
      names.foldl (fun s name =>
        let s := { s with tracked := s.tracked.filter (·.1 ≠ name) }
        if isBuiltin name || (s.definitions.lookup name).isSome then s
        else
          match s.lookFor name with
          | .ok s => s
          | .error e => (s.refuse name e).finish 1) (s.finish 0)

end Builtin

end Gutter.Shell
