import Gutter.DocKind
import Gutter.Linter.Failure
import Gutter.Path
import Gutter.Session.Id

/-!
# The log

What is worth noting while a session runs. Each event has a level, the part of the program that it
comes from, a name and some fields.
-/

namespace Gutter

/-- Why the result of a run was not stored. -/
inductive CompletionError where
  | evicted (editor : EditorId)
  | stale (editor : EditorId) (got current : Generation)
  | failed (editor : EditorId) (cause : Failure)
  deriving DecidableEq, Repr

namespace CompletionError

def message : CompletionError → String
  | .evicted e => e.text ++ " was evicted before its check completed"
  | .stale e got current => "stale completion for " ++ e.text ++ ": generation " ++
      toString got.number ++ " superseded by " ++ toString current.number
  | .failed e cause => "lint engine failed for " ++ e.text ++ ": " ++ cause.message

end CompletionError

namespace Log

/-- How important an event is. -/
inductive Level where
  | error
  | warn
  | info
  | debug
  | trace
  deriving DecidableEq, Repr

namespace Level

/-- The name of a level. -/
def name : Level → String
  | .error => "ERROR"
  | .warn => "WARN"
  | .info => "INFO"
  | .debug => "DEBUG"
  | .trace => "TRACE"

/-- How much detail a level stands for. -/
def detail : Level → Nat
  | .error => 1
  | .warn => 2
  | .info => 3
  | .debug => 4
  | .trace => 5

end Level

/-- The parts of the program that write to the log. -/
inductive Source where
  | service
  | scheduler
  | presenter
  | eviction
  | command
  | check
  deriving DecidableEq, Repr

namespace Source

/-- The name of a part in the log. -/
def name : Source → String
  | .service => "gutterlint_editor::service"
  | .scheduler => "gutterlint_editor::scheduler"
  | .presenter => "gutterlint_editor::presenter"
  | .eviction => "gutterlint_editor::eviction"
  | .command => "gutterlint_linter::command"
  | .check => "gutterlint::check"

end Source

/-- Something worth noting. -/
inductive Event where
  | busy (editor : EditorId)
  | cached (editor : EditorId)
  | debounce (editor : EditorId) (token : TimerToken) (replaced : Bool)
  | runStart (editor : EditorId) (generation : Generation) (kind : DocKind) (bytes : Nat)
  | runDone (editor : EditorId) (generation : Generation) (issues : Nat)
  | timerOrphaned (editor : EditorId)
  | timerSuperseded (editor : EditorId) (token : TimerToken)
  | render (editor : EditorId) (markers : Nat)
  | evicted (evicted kept : Nat)
  | activate (editors : Nat)
  | unsupported (editor : EditorId) (file : Path)
  | focus (editor : EditorId)
  | editorClosed (editor : EditorId) (released : Nat)
  | trailingCheck (editor : EditorId)
  | runFailed (error : CompletionError)
  | completionStale (error : CompletionError)
  | dispose (released : Nat)
  | spawn (program : String) (args : List String) (kind : DocKind) (bytes : Nat)
  | exit (status : ExitStatus) (stdout : Nat)
  | checkStart (program : String)
  | checkUnsupported (file : Path)
  | checkSettled (started failed : UInt64)
  deriving DecidableEq, Repr

namespace Event

/-- The level of an event. -/
def level : Event → Level
  | .busy _ | .cached _ | .debounce .. | .timerOrphaned _ | .timerSuperseded .. | .render .. |
    .unsupported .. | .exit .. => .trace
  | .runStart .. | .runDone .. | .evicted .. | .activate _ | .focus _ | .editorClosed .. |
    .trailingCheck _ | .completionStale _ | .dispose _ | .spawn .. | .checkSettled .. => .debug
  | .checkStart _ => .info
  | .runFailed _ | .checkUnsupported _ => .warn

/-- The part of the program that an event comes from. -/
def source : Event → Source
  | .busy _ | .cached _ | .debounce .. | .runStart .. | .runDone .. | .timerOrphaned _ |
    .timerSuperseded .. => .scheduler
  | .render .. => .presenter
  | .evicted .. => .eviction
  | .activate _ | .unsupported .. | .focus _ | .editorClosed .. | .trailingCheck _ | .runFailed _ |
    .completionStale _ | .dispose _ => .service
  | .spawn .. | .exit .. => .command
  | .checkStart _ | .checkUnsupported _ | .checkSettled .. => .check

/-- The name of an event. -/
def name : Event → String
  | .busy _ => "lint.scheduler.busy"
  | .cached _ => "lint.scheduler.cached"
  | .debounce .. => "lint.scheduler.debounce"
  | .runStart .. => "lint.scheduler.run_start"
  | .runDone .. => "lint.scheduler.run_done"
  | .timerOrphaned _ => "lint.scheduler.timer_orphaned"
  | .timerSuperseded .. => "lint.scheduler.timer_superseded"
  | .render .. => "lint.presenter.render"
  | .evicted .. => "lint.eviction.evicted"
  | .activate _ => "lint.service.activate"
  | .unsupported .. => "lint.service.unsupported"
  | .focus _ => "lint.service.focus"
  | .editorClosed .. => "lint.service.editor_closed"
  | .trailingCheck _ => "lint.service.trailing_check"
  | .runFailed _ => "lint.service.run_failed"
  | .completionStale _ => "lint.scheduler.completion_stale"
  | .dispose _ => "lint.service.dispose"
  | .spawn .. => "lint.command.spawn"
  | .exit .. => "lint.command.exit"
  | .checkStart _ => "lint.cli.start"
  | .checkUnsupported _ => "lint.cli.unsupported"
  | .checkSettled .. => "lint.cli.settled"

/-- The fields of an event, in the order in which they are printed. -/
def fields : Event → List (String × String)
  | .busy e | .cached e | .timerOrphaned e | .focus e | .trailingCheck e => [("editor", e.text)]
  | .debounce e token replaced =>
    [("editor", e.text), ("token", toString token.number), ("replaced", toString replaced)]
  | .runStart e generation kind bytes =>
    [("editor", e.text), ("generation", toString generation.number), ("doc_type", kind.name),
      ("bytes", toString bytes)]
  | .runDone e generation issues =>
    [("editor", e.text), ("generation", toString generation.number), ("issues", toString issues)]
  | .timerSuperseded e token => [("editor", e.text), ("token", toString token.number)]
  | .render e markers => [("editor", e.text), ("markers", toString markers)]
  | .evicted dropped left => [("evicted", toString dropped), ("kept", toString left)]
  | .activate editors => [("editors", toString editors)]
  | .unsupported e file => [("editor", e.text), ("file", file.display)]
  | .editorClosed e released => [("editor", e.text), ("released", toString released)]
  | .runFailed error | .completionStale error => [("error", error.message)]
  | .dispose released => [("released", toString released)]
  | .spawn program args kind bytes =>
    [("program", program), ("args", Text.quoteList args), ("doc_type", kind.name),
      ("bytes", toString bytes)]
  | .exit status stdout => [("status", status.text), ("stdout", toString stdout)]
  | .checkStart program => [("program", program)]
  | .checkUnsupported file => [("file", file.display)]
  | .checkSettled started failed =>
    [("started", toString started), ("failed", toString failed)]

/-- The names that a filter may ask for: the name of an event counts as its message, and a run that
is done also has a duration, which is not printed. -/
def fieldNames (e : Event) : List String :=
  let hidden := match e with
    | .runDone .. => ["message", "latency_ms"]
    | _ => ["message"]
  hidden ++ e.fields.map Prod.fst

def line (e : Event) : String :=
  e.level.name ++ " " ++ e.source.name ++ ": " ++ e.name ++
    String.join (e.fields.map fun f => " " ++ f.1 ++ "=" ++ f.2)

end Event

end Log

end Gutter
