import Gutter.Session.State
import Gutter.Session.Timespan
import Gutter.Settings

/-!
# Checking

A check of an editor is started at once, or after a quiet period, or not at all: one run at a time
for each editor, one timer at a time, and none while a run is under way. A run that ends is stored
only if the editor still waits for it.
-/

namespace Gutter

/-- What became of the wish for a check. -/
inductive Outcome where
  | unsupported
  | busy
  | debounced
  | cached
  | started (generation : Generation)
  deriving DecidableEq, Repr

/-- The document to check, and the editor that shows it. -/
structure Target where
  editor : EditorId
  file : Path
  kind : DocKind
  deriving DecidableEq, Repr

namespace Session

/-- Sets the timer of an editor in place of any other. -/
def setTimer (settings : Settings) (editor : EditorId) (s : Session) : Session :=
  let old := (s.entry? editor).bind Entry.timer
  let token := s.nextTimer
  let alarm : Alarm := ⟨token, editor, s.now + settings.debounceMs.toNat⟩
  let s := s.disarm old.toList
  let s := { s with
    nextTimer := token.next
    alarms := s.alarms ++ [alarm] }
  ((s.edit editor (.setTimer (some token))).count .countTimer).note
    (.debounce editor token old.isSome)

/-- Starts a run for an editor, and stops its timer. -/
def start (settings : Settings) (target : Target) (text : String) (s : Session) : Session :=
  let old := (s.entry? target.editor).bind Entry.timer
  let generation := s.clock.next
  let request : Request := ⟨text, target.kind, settings.locale⟩
  let run : Run := ⟨target.editor, generation, request⟩
  let s := s.disarm old.toList
  let s := { s with clock := generation, runs := s.runs ++ [run] }
  let s := (s.edit target.editor (.start generation)).count .countStart
  (s.note (.runStart target.editor generation target.kind text.utf8ByteSize)).ask request

/-- Asks for a check of a document, which is remembered from now on. The text is what the check is
made of if it starts now. -/
def request (settings : Settings) (target : Target) (text : String) (debounce : Bool)
    (s : Session) : Session × Outcome :=
  let s := s.ensure target.editor target.file
  let entry := (s.entry? target.editor).getD (.new target.file)
  if entry.isRunning then (s.note (.busy target.editor), .busy)
  else if debounce then (s.setTimer settings target.editor, .debounced)
  else if !entry.needsCheck then (s.note (.cached target.editor), .cached)
  else (s.start settings target text, .started s.clock.next)

/-- Takes note that a timer has rung. The answer is whether the editor was waiting for it; only then
does anything change. -/
def timerFired (editor : EditorId) (token : TimerToken) (s : Session) : Session × Bool :=
  match s.entry? editor with
  | none => (s.note (.timerOrphaned editor), false)
  | some entry =>
    if entry.timer = some token then ((s.disarm [token]).edit editor (.setTimer none), true)
    else (s.note (.timerSuperseded editor token), false)

/-- Takes note that a run has ended. Its findings are stored if the editor was waiting for it. -/
def complete (settings : Settings) (editor : EditorId) (generation : Generation)
    (result : Except Failure (List Record)) (s : Session) :
    Session × Except CompletionError EditorId :=
  match s.entry? editor with
  | none => (s.count .countStale, .error (.evicted editor))
  | some entry =>
    if !entry.isRunning || entry.generation ≠ generation then
      (s.count .countStale, .error (.stale editor generation entry.generation))
    else
      match result with
      | .ok records =>
        let findings := Findings.ofRecords records settings.severityLevel
        let s := s.note (.runDone editor generation findings.issues.length)
        ((s.edit editor (.commit findings)).count .countCompletion, .ok editor)
      | .error failure =>
        ((s.edit editor .fail).count .countFailure, .error (.failed editor failure))

/-- A short description of what decides when checks run: the quiet period and the last run. -/
def describe (settings : Settings) (s : Session) : String :=
  "Scheduler \x7b debounce: " ++ Timespan.text settings.debounceMs.toNat ++
    ", clock: Generation(" ++ toString s.clock.number ++ "), .. \x7d"

end Session

end Gutter
