import Gutter.Shell.Run

/-!
# Starting programs from outside

What a program writes, and how it ends, when it is started on some input and on some files.
-/

namespace Gutter.Shell

def depthLimit : Nat := 20000

structure Outcome where
  status : ExitStatus
  output : List UInt8
  errors : List UInt8

/-- Runs a program with some variables on some input. -/
def start (l : Launch) (environment : List (String × String)) (input : List UInt8) (files : Files)
    (directory : Location) : Outcome :=
  let outside : State :=
    { name := ""
      number := 1
      directory
      path := Builtin.pathOf directory
      files
      streams := [.source input, .journal 1, .journal 2] }
  let after := runProgram depthLimit l environment outside
  let status := match after.exitStatus with
    | .code n => .code (n % 256)
    | status => status
  let written (n : Nat) : List UInt8 :=
    (after.journal.reverse.filter fun x => x.1 = n).flatMap Prod.snd
  ⟨status, written 1, written 2⟩

end Gutter.Shell
