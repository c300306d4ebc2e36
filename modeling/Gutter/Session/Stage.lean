import Gutter.Session.Clock
import Gutter.Session.Desk

/-!
# A session at work

A service, a desk and a clock that only moves when it is told to. Each step either changes the desk,
lets something happen outside, or tells the service about something; at the end of each step the
timers that are due ring. Once the service has ended it takes no more steps.
-/

namespace Gutter

/-- A session at work. -/
structure Stage where
  service : Service
  session : Session := .initial
  desk : Desk := .empty
  isDisposed : Bool := false

namespace Stage

/-- One step. -/
inductive Step where
  -- changes of the desk
  | openDocument (editor : EditorId) (doc : Document) (onScreen : Bool)
  | setText (editor : EditorId) (text : Option String)
  | setCursor (editor : EditorId) (line : Option UInt64)
  | rename (editor : EditorId) (file : Path)
  | focus (editor : Option EditorId)
  | setVisible (editors : List EditorId)
  | closeDocument (editor : EditorId)
  -- what happens outside
  | advance (ms : Nat)
  | finish (generation : Generation) (result : Except Failure (List Record))
  -- what the service is told
  | activate
  | request (editor : EditorId) (debounce : Bool)
  | render (editor : EditorId)
  | prune
  | textChanged (file : Path)
  | activeChanged (editor : Option EditorId)
  | selectionChanged (editor : EditorId)
  | documentClosed (file : Path)
  | editorClosed (editor : EditorId)
  | drain
  | nextEvent
  | dispose

/-- The answer to a step. -/
inductive Answer where
  | nothing
  | truth (b : Bool)
  | number (n : Nat)
  | outcome (o : Outcome)
  | timeout
  | disposed
  deriving DecidableEq, Repr

/-- The start: nothing is open. -/
def ofSettings (settings : Settings) : Stage := { service := .ofSettings settings }

def act (f : Service → Host → Session → Session × Answer) (s : Stage) : Stage × Answer :=
  if s.isDisposed then (s, .disposed)
  else
    let (session, answer) := f s.service s.desk.host s.session
    ({ s with session }, answer)

def tell (f : Service → Host → Session → Session) (s : Stage) : Stage × Answer :=
  s.act fun v host session => (f v host session, .nothing)

def arrange (f : Desk → Desk) (s : Stage) : Stage × Answer :=
  ({ s with desk := f s.desk }, .nothing)

/-- The end of a run, of which a service that has ended hears nothing. -/
def finish (generation : Generation) (result : Except Failure (List Record)) (s : Stage) :
    Stage × Answer :=
  let answer := s.session.isWaitingFor generation
  let session := s.session.finish generation result
  let session := if s.isDisposed then { session with queue := [] } else session
  ({ s with session }, .truth answer)

/-- What a step does before the due timers ring. -/
def perform (s : Stage) : Step → Stage × Answer
  | .openDocument editor doc onScreen => s.arrange (.openDocument editor doc onScreen)
  | .setText editor text => s.arrange (.edit editor fun d => { d with text })
  | .setCursor editor line => s.arrange (.edit editor fun d => { d with cursor := line })
  | .rename editor file => s.arrange (.edit editor fun d => { d with file })
  | .focus editor => s.arrange (.focus editor)
  | .setVisible editors => s.arrange fun d => { d with visible := editors }
  | .closeDocument editor => s.arrange (.closeDocument editor)
  | .advance ms => ({ s with session := s.session.pass ms }, .nothing)
  | .finish generation result => s.finish generation result
  | .activate => s.tell Service.activate
  | .request editor debounce => s.act fun v host session =>
    let (session, outcome) := v.request host editor debounce session
    (session, .outcome outcome)
  | .render editor => s.act fun v host session =>
    (session.render v.settings host editor, .truth (session.knows editor))
  | .prune => s.act fun v host session =>
    let (session, n) := v.prune host session
    (session, .number n)
  | .textChanged file => s.tell fun v host => v.textChanged host file
  | .activeChanged editor => s.tell fun v host => v.activeChanged host editor
  | .selectionChanged editor => s.tell fun v host => v.selectionChanged host editor
  | .documentClosed file => s.tell fun v host => v.documentClosed host file
  | .editorClosed editor => s.tell fun _ _ => Service.editorClosed editor
  | .drain => s.act fun v host session =>
    let (session, n) := v.drain host session
    (session, .number n)
  | .nextEvent => s.act fun v host session =>
    match session.await with
    | (session, true) => (v.handleNext host session, .truth true)
    | (session, false) => (session, .timeout)
  | .dispose =>
    let (s, answer) := s.act fun _ _ session =>
      ({ Service.dispose session with queue := [] }, .truth true)
    ({ s with isDisposed := true }, answer)

def step (s : Stage) (x : Step) : Stage × Answer :=
  let (s, answer) := s.perform x
  ({ s with session := s.session.ringDue }, answer)

end Stage

end Gutter
