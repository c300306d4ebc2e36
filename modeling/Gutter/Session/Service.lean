import Gutter.Extensions
import Gutter.Session.Checking
import Gutter.Session.Pruning

/-!
# The service

What a session does when something happens in the host: an editor is opened or closed, its text or
its cursor changes, a timer rings, a run ends.
-/

namespace Gutter

/-- What stays the same during a session. -/
structure Service where
  settings : Settings
  extensions : Extensions

namespace Service

def ofSettings (settings : Settings) : Service := ⟨settings, .ofSettings settings⟩

/-- Asks for a check of the document that an editor shows. If nothing has changed since the last
check, the editor is drawn anew. -/
def request (v : Service) (host : Host) (editor : EditorId) (debounce : Bool) (s : Session) :
    Session × Outcome :=
  match host.file? editor with
  | none => (s, .unsupported)
  | some file =>
    match v.extensions.kindOf? file with
    | none => (s.note (.unsupported editor file), .unsupported)
    | some kind =>
      match s.request v.settings ⟨editor, file, kind⟩ ((host.text? editor).getD "") debounce with
      | (s, .cached) => (s.render v.settings host editor, .cached)
      | (s, outcome) => (s, outcome)

def requestAll (v : Service) (host : Host) (editors : List EditorId) (debounce : Bool)
    (s : Session) : Session :=
  editors.foldl (fun s editor => (v.request host editor debounce s).1) s

/-- The service has become active: every visible editor is checked at once. -/
def activate (v : Service) (host : Host) (s : Session) : Session :=
  v.requestAll host host.visible false (s.note (.activate host.visible.length))

def prune (v : Service) (host : Host) (s : Session) : Session × Nat :=
  s.prune v.settings.evictionSlack host.visible

def shows (host : Host) (file : Path) (editor : EditorId) : Bool :=
  match host.file? editor with
  | some f => f.same file
  | none => false

/-- The text of a document has changed: a check of each visible editor that shows it will start
after a quiet period. -/
def textChanged (v : Service) (host : Host) (file : Path) (s : Session) : Session :=
  if !v.extensions.supports file then s
  else
    let s := (host.visible.filter (shows host file)).foldl
      (fun s editor => (v.request host editor true (s.edit editor .soil)).1) s
    match host.active with
    | some active => s.showStatus v.settings host active
    | none => s

/-- An editor has got the focus: its issues are the published ones from now on, and a check of every
visible editor will start after a quiet period. -/
def activeChanged (v : Service) (host : Host) (editor : Option EditorId) (s : Session) : Session :=
  match editor with
  | none => s
  | some editor =>
    let s := (s.note (.focus editor)).draw [.withdrawAll]
    let s := (s.showStatus v.settings host editor).showIssues host editor
    v.requestAll host host.visible true s

def selectionChanged (v : Service) (host : Host) (editor : EditorId) (s : Session) : Session :=
  if host.active = some editor && (host.file? editor).any v.extensions.supports then
    s.showStatus v.settings host editor
  else s

def documentClosed (v : Service) (host : Host) (file : Path) (s : Session) : Session :=
  if !v.extensions.supports file then s
  else
    let s := (v.prune host s).1
    if host.active = none then s.draw [.clearStatus] else s

/-- An editor is closed: it is forgotten, and its markers are released. -/
def editorClosed (editor : EditorId) (s : Session) : Session :=
  match s.entry? editor with
  | none => s
  | some entry =>
    (s.close (fun e => e ≠ editor)).note (.editorClosed editor entry.markers.length)

/-- Handles an event. A timer that the editor waits for starts a check if the editor is visible. A
run that the editor waits for is stored and drawn, and another check follows if the text has changed
in the meantime. -/
def handle (v : Service) (host : Host) (event : Event) (s : Session) : Session :=
  match event with
  | .timerFired editor token =>
    match s.timerFired editor token with
    | (s, true) => if editor ∈ host.visible then (v.request host editor false s).1 else s
    | (s, false) => s
  | .runDone editor generation result =>
    match s.complete v.settings editor generation result with
    | (s, .ok editor) =>
      let s := s.render v.settings host editor
      if (s.entry? editor).any Entry.needsCheck then
        (v.request host editor true (s.note (.trailingCheck editor))).1
      else s
    | (s, .error (.failed editor cause)) => s.note (.runFailed (.failed editor cause))
    | (s, .error error) => s.note (.completionStale error)

def handleNext (v : Service) (host : Host) (s : Session) : Session :=
  match s.queue with
  | [] => s
  | event :: rest => v.handle host event { s with queue := rest }

/-- Handles every event, and counts them. Handling an event makes no other, for what follows from it
happens only as time goes on. -/
def drain (v : Service) (host : Host) (s : Session) : Session × Nat :=
  (s.queue.foldl (fun s _ => v.handleNext host s) s, s.queue.length)

/-- The service ends: everything is forgotten, and nothing stays drawn. -/
def dispose (s : Session) : Session :=
  let released := (Session.markersOf s.cache.pairs).length
  ((s.close (fun _ => false)).draw [.clearStatus, .withdrawAll]).note (.dispose released)

end Service

end Gutter
