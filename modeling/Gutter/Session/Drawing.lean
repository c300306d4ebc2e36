import Gutter.Session.Host
import Gutter.Session.State
import Gutter.Settings

/-!
# Drawing

Drawing an editor shows what is remembered of it: markers in any case, the status line and the
published issues only while the editor is active. Old markers are released before new ones are made.
-/

namespace Gutter.Session

def release (markers : List MarkerId) (s : Session) : Session :=
  (s.draw (markers.map .release)).count (.countReleased (UInt64.ofNat markers.length))

def releaseOf (editor : EditorId) (s : Session) : Session :=
  match s.entry? editor with
  | none => s
  | some entry => (s.release entry.markers).edit editor .takeMarkers

/-- Makes a marker of some lines of an editor, if there are any. -/
def mark (host : Host) (editor : EditorId) (severity : Severity) (lines : List UInt64)
    (s : Session) : Session :=
  if lines.isEmpty then s
  else
    let marker := host.marker s.minted
    let s := (s.draw [.create editor marker severity lines]).edit editor (.addMarker marker)
    { s.count .countMarker with minted := s.minted + 1 }

def cursorIssues (host : Host) (editor : EditorId) (s : Session) : List Issue :=
  match s.entry? editor, host.cursor? editor with
  | some entry, some line => (entry.issuesOn? line).getD []
  | _, _ => []

/-- What the status line shows for the issues of a line. -/
def statusStroke (settings : Settings) (issues : List Issue) : Stroke :=
  match Issue.primary? issues with
  | some primary => .status
    { text := primary.message
      tooltip := "\n".intercalate (issues.map Issue.message)
      severity := primary.severity
      color := settings.color primary.severity }
  | none => .clearStatus

def showStatus (settings : Settings) (host : Host) (editor : EditorId) (s : Session) : Session :=
  if host.active = some editor then s.draw [statusStroke settings (s.cursorIssues host editor)]
  else s

/-- Publishes the issues of an editor if it is active, and else withdraws those of its document. -/
def showIssues (host : Host) (editor : EditorId) (s : Session) : Session :=
  match s.entry? editor with
  | none => s
  | some entry =>
    if host.active = some editor then s.draw [.publish entry.file entry.issues]
    else s.draw [.withdraw entry.file]

def markerCount (editor : EditorId) (s : Session) : Nat :=
  match s.entry? editor with
  | none => 0
  | some entry => entry.markers.length

/-- Draws an editor, if it is remembered. -/
def render (settings : Settings) (host : Host) (editor : EditorId) (s : Session) : Session :=
  match s.entry? editor with
  | none => s
  | some entry =>
    let s := s.releaseOf editor
    let s := s.mark host editor .error entry.marked.errors
    let s := s.mark host editor .warning entry.marked.warnings
    let s := s.note (.render editor (s.markerCount editor))
    (s.showStatus settings host editor).showIssues host editor

end Gutter.Session
