/-!
# Names of things in a session

Editors and markers are named by the host, runs and timers by the session.
-/

namespace Gutter

/-- An open editor. It is not its document: two editors can show one document. -/
structure EditorId where
  number : Nat
  deriving DecidableEq, Repr

namespace EditorId

def text (e : EditorId) : String := "editor#" ++ toString e.number

end EditorId

/-- A marker in the gutter of an editor, as the host names it. -/
structure MarkerId where
  number : Nat
  deriving DecidableEq, Repr

/-- The number of a run. Runs are numbered over the whole session, so a number tells a run from
every other one until the numbers wrap around. -/
structure Generation where
  number : UInt64
  deriving DecidableEq, Repr

namespace Generation

def initial : Generation := ⟨0⟩

def next (g : Generation) : Generation := ⟨g.number + 1⟩

end Generation

/-- The number of a timer, counted over the whole session. -/
structure TimerToken where
  number : UInt64
  deriving DecidableEq, Repr

namespace TimerToken

def initial : TimerToken := ⟨0⟩

def next (t : TimerToken) : TimerToken := ⟨t.number + 1⟩

end TimerToken

end Gutter
