import Gutter.Session.Service

/-!
# Time and the linter

What happens without the service: time goes on, timers ring, runs end.
-/

namespace Gutter.Session

def pass (ms : Nat) (s : Session) : Session := { s with now := s.now + ms }

def isDue (s : Session) (a : Alarm) : Bool := a.due ≤ s.now

/-- A timer rings if it is due: it is no alarm any more, and its event waits to be handled. -/
def ring (token : TimerToken) (s : Session) : Session :=
  match s.alarms.find? (fun a => a.token = token) with
  | none => s
  | some a =>
    if s.isDue a then
      { s.disarm [token] with queue := s.queue ++ [.timerFired a.editor a.token] }
    else s

def ringDue (s : Session) : Session :=
  (s.alarms.map Alarm.token).foldl (fun s token => s.ring token) s

/-- A run ends with a result, if it is under way. -/
def finish (generation : Generation) (result : Except Failure (List Record)) (s : Session) :
    Session :=
  match s.runs.find? (fun r => r.generation = generation) with
  | none => s
  | some r =>
    { s with
      runs := s.runs.filter (fun r => r.generation ≠ generation)
      queue := s.queue ++ [.runDone r.editor generation result] }

def isWaitingFor (s : Session) (generation : Generation) : Bool :=
  s.runs.any (fun r => r.generation = generation)

def nextDue? (s : Session) : Option Nat := (s.alarms.map Alarm.due).min?

def patience : Nat := 3600000

/-- Time goes on until something has happened; the answer is whether something has. -/
def await (s : Session) : Session × Bool :=
  if !s.queue.isEmpty then (s, true)
  else
    match s.nextDue? with
    | some due =>
      if due ≤ s.now + patience then ({ s with now := max s.now due }.ringDue, true)
      else (s.pass patience, false)
    | none => (s.pass patience, false)

end Gutter.Session
