import Gutter.Issue
import Gutter.Path
import Gutter.Session.Id
import Gutter.Table

/-!
# What the host shows

A session draws by telling its host to create and release markers, to publish the issues of a
document and to set the status line. Following the strokes one by one gives the screen.
-/

namespace Gutter

/-- The status line for the cursor line: the message that is shown for it, and all its messages. -/
structure StatusLine where
  text : String
  tooltip : String
  severity : Severity
  color : String
  deriving DecidableEq, Repr

/-- One thing that the host is told to draw. -/
inductive Stroke where
  | create (editor : EditorId) (marker : MarkerId) (severity : Severity) (lines : List UInt64)
  | release (marker : MarkerId)
  | publish (file : Path) (issues : List Issue)
  | withdraw (file : Path)
  | withdrawAll
  | status (line : StatusLine)
  | clearStatus
  deriving DecidableEq, Repr

/-- A marker on the lines of an editor. -/
structure Marker where
  editor : EditorId
  severity : Severity
  lines : List UInt64
  deriving DecidableEq, Repr

/-- What the host shows. A document is what paths with the same components name. -/
structure Screen where
  markers : Table MarkerId Marker := .empty
  published : Table (List Path.Component) (List Issue) := .empty
  statusLine : Option StatusLine := none

namespace Screen

def blank : Screen := {}

/-- The screen after one stroke. -/
def apply (s : Screen) : Stroke → Screen
  | .create editor marker severity lines =>
    { s with markers := s.markers.insert marker ⟨editor, severity, lines⟩ }
  | .release marker => { s with markers := s.markers.erase marker }
  | .publish file issues => { s with published := s.published.insert file.components issues }
  | .withdraw file => { s with published := s.published.erase file.components }
  | .withdrawAll => { s with published := .empty }
  | .status line => { s with statusLine := some line }
  | .clearStatus => { s with statusLine := none }

def draw (s : Screen) (strokes : List Stroke) : Screen := strokes.foldl apply s

def published? (s : Screen) (file : Path) : Option (List Issue) := s.published.get? file.components

end Screen

end Gutter
