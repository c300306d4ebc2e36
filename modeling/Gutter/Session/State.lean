import Gutter.Linter.Command
import Gutter.Log.Event
import Gutter.Session.Counters
import Gutter.Session.Entry
import Gutter.Session.Screen
import Gutter.Table

/-!
# The state of a session

A session remembers the editors, and with them the world it waits for: timers that have not rung,
runs that have not ended, and events that have not been handled. What it tells the host, asks of
the linter and writes to the log goes into a journal, in order.
-/

namespace Gutter

/-- Something that happened outside and has to be handled. -/
inductive Event where
  | timerFired (editor : EditorId) (token : TimerToken)
  | runDone (editor : EditorId) (generation : Generation) (result : Except Failure (List Record))

/-- A timer that has not rung, and when it rings, in milliseconds. -/
structure Alarm where
  token : TimerToken
  editor : EditorId
  due : Nat
  deriving DecidableEq, Repr

/-- A run that has not ended. -/
structure Run where
  editor : EditorId
  generation : Generation
  request : Request
  deriving DecidableEq, Repr

/-- What a session has done to the outside. -/
structure Journal where
  strokes : List Stroke := []
  requests : List Request := []
  log : List Log.Event := []

/-- The state of a session. Events, timers and runs stand in order, the oldest first; the time is in
milliseconds, and `minted` tells how many markers the host has made. -/
structure Session where
  cache : Table EditorId Entry := .empty
  clock : Generation := .initial
  nextTimer : TimerToken := .initial
  counters : Counters := {}
  queue : List Event := []
  alarms : List Alarm := []
  runs : List Run := []
  now : Nat := 0
  minted : Nat := 0
  journal : Journal := {}

namespace Session

def initial : Session := {}

def draw (strokes : List Stroke) (s : Session) : Session :=
  { s with journal := { s.journal with strokes := s.journal.strokes ++ strokes } }

def note (event : Log.Event) (s : Session) : Session :=
  { s with journal := { s.journal with log := s.journal.log ++ [event] } }

def ask (request : Request) (s : Session) : Session :=
  { s with journal := { s.journal with requests := s.journal.requests ++ [request] } }

def count (f : Counters → Counters) (s : Session) : Session := { s with counters := f s.counters }

def edit (editor : EditorId) (f : Entry → Entry) (s : Session) : Session :=
  { s with cache := s.cache.modify editor f }

def ensure (editor : EditorId) (file : Path) (s : Session) : Session :=
  { s with cache := s.cache.ensure editor (.new file) }

def entry? (s : Session) (editor : EditorId) : Option Entry := s.cache.get? editor

def knows (s : Session) (editor : EditorId) : Bool := s.cache.contains editor

def disarm (tokens : List TimerToken) (s : Session) : Session :=
  { s with alarms := s.alarms.filter (fun a => a.token ∉ tokens) }

def dropped (s : Session) (keep : EditorId → Bool) : List (EditorId × Entry) :=
  s.cache.pairs.filter (fun x => !keep x.1)

def forget (keep : EditorId → Bool) (s : Session) : Session :=
  { s.disarm ((s.dropped keep).filterMap fun x => x.2.timer) with
    cache := s.cache.filterKeys keep }

def takeJournal (s : Session) : Journal × Session := (s.journal, { s with journal := {} })

end Session

end Gutter
