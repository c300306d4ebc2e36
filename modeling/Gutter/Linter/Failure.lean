import Gutter.Json.Error

/-!
# Failed checks

How asking a linter can fail. A failed check reports nothing, not even part of a result.
-/

namespace Gutter

/-- How a program ended. -/
inductive ExitStatus where
  | code (n : Nat)
  | signal (n : Nat)
  deriving DecidableEq, Repr

namespace ExitStatus

def signalNames : List String :=
  ["SIGHUP", "SIGINT", "SIGQUIT", "SIGILL", "SIGTRAP", "SIGABRT", "SIGBUS", "SIGFPE", "SIGKILL",
    "SIGUSR1", "SIGSEGV", "SIGUSR2", "SIGPIPE", "SIGALRM", "SIGTERM", "SIGSTKFLT", "SIGCHLD",
    "SIGCONT", "SIGSTOP", "SIGTSTP", "SIGTTIN", "SIGTTOU", "SIGURG", "SIGXCPU", "SIGXFSZ",
    "SIGVTALRM", "SIGPROF", "SIGWINCH", "SIGIO", "SIGPWR", "SIGSYS"]

/-- The wording of a status. -/
def text : ExitStatus → String
  | .code n => "exit status: " ++ toString n
  | .signal n => "signal: " ++ toString n ++
      (match signalNames[n - 1]? with
        | some name => if n = 0 then "" else " (" ++ name ++ ")"
        | none => "")

def isSuccess : ExitStatus → Bool
  | .code n => n = 0
  | .signal _ => false

end ExitStatus

/-- Why a check failed. -/
inductive Failure where
  | spawn (program cause : String)
  | io (cause : String)
  | exit (status : ExitStatus) (stderr : String)
  | undecodable (e : Json.Error)
  | task (cause : String)
  | crash
  deriving DecidableEq, Repr

namespace Failure

/-- The wording of a failure. -/
def message : Failure → String
  | .spawn program cause => "failed to spawn linter `" ++ program ++ "`: " ++ cause
  | .io cause => "linter i/o error: " ++ cause
  | .exit status stderr => "linter exited with " ++ status.text ++ ": " ++ stderr
  | .undecodable e => "undecodable linter report: " ++ e.message
  | .task cause => "lint task failed: " ++ cause
  | .crash => "lint task failed: PANIC"

end Failure

end Gutter
