import Gutter.Session.Clock
import Gutter.Session.Desk
import Gutter.Terminal.Printout

/-!
# Checking documents once

Every document is opened in an editor of its own, every editor is checked once, and what each shows
is printed when all checks have ended. How the linter answers is left open: it may answer the runs
in any order.
-/

namespace Gutter

/-- How a linter answers the runs of a check: in which order they end, with which results, and what
is noted when they start and end. -/
structure Answers where
  order : List Run → List Run
  result : Run → Except Failure (List Record)
  onStart : Run → List Log.Event := fun _ => []
  onEnd : Run → List Log.Event := fun _ => []

/-- What came of a check: what is printed for each document, how many events were handled, and the
session after its end. -/
structure Verdict where
  blocks : List String
  exitCode : Nat
  handled : Nat
  session : Session

namespace Check

def desk (documents : List (Path × String)) (cursor : UInt64) : Desk :=
  documents.zipIdx.foldl (fun d x =>
    let line := if x.2 = 0 then cursor else 0
    d.openDocument ⟨x.2 + 1⟩ ⟨x.1.1, some x.1.2, some line⟩ true) .empty

def noteAll (events : List Log.Event) (s : Session) : Session :=
  events.foldl (fun s e => s.note e) s

def isBusy (s : Session) : Bool := s.cache.pairs.any fun x => x.2.isRunning

/-- Lets runs end one after the other, and handles the event of each, as long as a check is under
way. The answer also tells how many events were handled. -/
def wait (v : Service) (host : Host) (answers : Answers) : List Run → Session → Session × Nat
  | [], s => (s, 0)
  | run :: runs, s =>
    if isBusy s then
      let s := (noteAll (answers.onEnd run) s).finish run.generation (answers.result run)
      let (s, n) := wait v host answers runs (v.handleNext host s)
      (s, n + 1)
    else (s, 0)

def screen (s : Session) : Screen := Screen.blank.draw s.journal.strokes

/-- The exit code after one more editor: 2 once a check has failed, otherwise 1 once there was an
error. -/
def exitCode (code : Nat) : Option Entry → Nat
  | none => code
  | some entry =>
    if entry.findings.isNone then 2
    else if code = 0 && entry.issues.any (fun i => i.severity = .error) then 1 else code

def failureLine : Option Entry → String
  | some entry => if entry.findings.isNone then "  check failed\n" else ""
  | none => ""

/-- Gives the focus to one editor after the other and prints what each shows. -/
def printAll (v : Service) : List EditorId → Desk → Nat → Session → List String × Nat × Session
  | [], _, code, s => ([], code, s)
  | editor :: editors, desk, code, s =>
    let desk := desk.focus (some editor)
    let s := v.activeChanged desk.host (some editor) s
    let entry := s.entry? editor
    let block := Printout.text desk (screen s) editor ++ failureLine entry
    let (blocks, code, s) := printAll v editors desk (exitCode code entry) s
    (block :: blocks, code, s)

/-- Checks documents in a session in which nothing has happened but some notes. -/
def run (settings : Settings) (documents : List (Path × String)) (cursor : UInt64)
    (answers : Answers) (notes : List Log.Event) : Verdict :=
  let v := Service.ofSettings settings
  let desk := desk documents cursor
  let s := v.activate desk.host (noteAll notes .initial)
  let s := noteAll (s.runs.flatMap answers.onStart) s
  let (s, handled) := wait v desk.host answers (answers.order s.runs) s
  let s := s.note (.checkSettled s.counters.runsStarted s.counters.runsFailed)
  let (blocks, exitCode, s) := printAll v desk.visible desk 0 s
  { blocks, exitCode, handled, session := Service.dispose s }

end Check

end Gutter
