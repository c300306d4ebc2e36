import Gutter.Linter.Command
import Gutter.Linter.Failure

/-!
# The machine

What the program finds around it: the files that it reads, and the programs that it starts. What a
started program does is not known here, so every machine is as good as another one.
-/

namespace Gutter

/-- How a program ended, and what it has written. -/
structure Finished where
  status : ExitStatus
  output : List UInt8
  errors : List UInt8
  deriving DecidableEq, Repr

/-- Why a program did not take all of its input. -/
inductive InputFault where
  | closed
  | other (cause : String)
  deriving DecidableEq, Repr

/-- A program that was started: whether it took its input, and how it ended. -/
structure Child where
  input : Except InputFault Unit
  ending : Except String Finished

/-- What a child has led to. A program may end before it has read all of its input. -/
def Child.collect (child : Child) : Except String Finished :=
  match child.input with
  | .error (.other cause) => .error cause
  | .error .closed | .ok () => child.ending

/-- The files of a machine by their paths, and what becomes of a command that is started with some
arguments on some input. -/
structure Machine where
  readText : Path → Except String String
  start : Command → List String → List UInt8 → Except String Child

end Gutter
