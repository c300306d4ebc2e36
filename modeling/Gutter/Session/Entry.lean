import Gutter.Issue
import Gutter.Path
import Gutter.Session.Id

/-!
# What is remembered of an editor
-/

namespace Gutter

/-- What is remembered of an editor: the document that it showed when it was first seen, the timer
that it waits for, what its last completed check found, the markers of its last drawing and the
number of its last run. -/
structure Entry where
  file : Path
  timer : Option TimerToken := none
  isRunning : Bool := false
  needsCheck : Bool := true
  findings : Option Findings := none
  markers : List MarkerId := []
  generation : Generation := .initial
  deriving DecidableEq

namespace Entry

def new (file : Path) : Entry := { file }

def issues (e : Entry) : List Issue := (e.findings.map Findings.issues).getD []

def issuesOn? (e : Entry) (line : UInt64) : Option (List Issue) :=
  e.findings.bind fun f => f.byLine.get? line

/-- The lines to mark; none before the first completed check. -/
def marked (e : Entry) : MarkedLines :=
  match e.findings with
  | some f => .ofLineMap f.byLine
  | none => ⟨[], []⟩

def soil (e : Entry) : Entry := { e with needsCheck := true }

def setTimer (timer : Option TimerToken) (e : Entry) : Entry := { e with timer }

def start (generation : Generation) (e : Entry) : Entry :=
  { e with timer := none, isRunning := true, needsCheck := false, generation }

def commit (findings : Findings) (e : Entry) : Entry :=
  { e with isRunning := false, findings := some findings }

def fail (e : Entry) : Entry := { e with isRunning := false, needsCheck := true }

def addMarker (marker : MarkerId) (e : Entry) : Entry := { e with markers := e.markers ++ [marker] }

def takeMarkers (e : Entry) : Entry := { e with markers := [] }

end Entry

end Gutter
