import Gutter.Proofs.Session.Entries
import Gutter.Session.Clock

/-!
# What drawing leaves alone

A session does two things that have little to do with each other: it decides when checks run, and
it draws what they found. The first part is `Session.work` together with `Session.bare?`, what is
remembered of each editor apart from its markers; drawing changes neither.
-/

namespace Gutter

def Log.Event.isAside : Log.Event → Bool
  | .debounce .. | .runStart .. | .runDone .. | .runFailed _ | .completionStale _ => false
  | _ => true

def Log.Event.drawn? : Log.Event → Option EditorId
  | .render e _ | .focus e => some e
  | _ => none

/-- The part of a session that decides when checks run, apart from what is remembered of each
editor. -/
structure Work where
  clock : Generation
  nextTimer : TimerToken
  queue : List Event
  alarms : List Alarm
  runs : List Run
  now : Nat
  requests : List Request
  record : List Log.Event
  runsStarted : UInt64
  runsCompleted : UInt64
  runsFailed : UInt64
  staleCompletions : UInt64
  timersScheduled : UInt64

namespace Session

def record (s : Session) : List Log.Event := s.journal.log.filter (!·.isAside)

/-- The part of a session that decides when checks run. -/
def work (s : Session) : Work where
  clock := s.clock
  nextTimer := s.nextTimer
  queue := s.queue
  alarms := s.alarms
  runs := s.runs
  now := s.now
  requests := s.journal.requests
  record := s.record
  runsStarted := s.counters.runsStarted
  runsCompleted := s.counters.runsCompleted
  runsFailed := s.counters.runsFailed
  staleCompletions := s.counters.staleCompletions
  timersScheduled := s.counters.timersScheduled

def bare? (s : Session) (e : EditorId) : Option Entry := (s.entry? e).map .takeMarkers

theorem exists_entry_of_bare {s s' : Session} {e : EditorId} (hb : s'.bare? e = s.bare? e)
    {entry : Entry} (he : s.entry? e = some entry) :
    ∃ markers, s'.entry? e = some { entry with markers } := by
  rw [bare?, bare?, he, Option.map_some, Option.map_eq_some_iff] at hb
  obtain ⟨entry', he', hb⟩ := hb
  refine ⟨entry'.markers, he'.trans (congrArg some ?_)⟩
  exact congrArg (fun bare : Entry => { bare with markers := entry'.markers }) hb

/-- Two sessions agree on when checks run. -/
structure Alike (s s' : Session) : Prop where
  work : s'.work = s.work
  bare : ∀ e, s'.bare? e = s.bare? e

namespace Alike

variable {s s' s'' : Session}

theorem refl (s : Session) : s.Alike s := ⟨rfl, fun _ => rfl⟩

theorem trans (h : s.Alike s') (h' : s'.Alike s'') : s.Alike s'' :=
  ⟨h'.work.trans h.work, fun e => (h'.bare e).trans (h.bare e)⟩

theorem exists_entry (h : s.Alike s') {e : EditorId} {entry : Entry}
    (he : s.entry? e = some entry) :
    ∃ markers, s'.entry? e = some { entry with markers } :=
  exists_entry_of_bare (h.bare e) he

theorem symm (h : s.Alike s') : s'.Alike s := ⟨h.work.symm, fun e => (h.bare e).symm⟩

theorem knows (h : s.Alike s') (e : EditorId) : s'.knows e = s.knows e := by
  have hb : (s'.entry? e).isSome = (s.entry? e).isSome := by
    simpa [bare?] using congrArg Option.isSome (h.bare e)
  exact hb

end Alike

/-! ## Noting and drawing -/

theorem alike_note {event : Log.Event} (h : event.isAside = true) (s : Session) :
    s.Alike (s.note event) := by
  refine ⟨?_, fun _ => rfl⟩
  simp [work, record, note, List.filter_append, h]

theorem alike_draw (strokes : List Stroke) (s : Session) : s.Alike (s.draw strokes) :=
  ⟨rfl, fun _ => rfl⟩

theorem alike_countEvicted (n : UInt64) (s : Session) : s.Alike (s.count (.countEvicted n)) :=
  ⟨rfl, fun _ => rfl⟩

theorem alike_releaseOf (e : EditorId) (s : Session) : s.Alike (s.releaseOf e) := by
  constructor
  · unfold releaseOf
    split <;> rfl
  · intro x
    rw [bare?, bare?, entry?_releaseOf]
    split
    · cases s.entry? x <;> rfl
    · rfl

theorem alike_mark (host : Host) (e : EditorId) (severity : Severity) (lines : List UInt64)
    (s : Session) : s.Alike (s.mark host e severity lines) := by
  constructor
  · unfold mark
    split <;> rfl
  · intro x
    rw [bare?, bare?, entry?_mark]
    split
    · cases s.entry? x <;> rfl
    · rfl

theorem alike_showStatus (settings : Settings) (host : Host) (e : EditorId) (s : Session) :
    s.Alike (s.showStatus settings host e) := by
  unfold showStatus
  split
  · exact alike_draw _ s
  · exact .refl s

theorem alike_showIssues (host : Host) (e : EditorId) (s : Session) :
    s.Alike (s.showIssues host e) := by
  unfold showIssues
  split
  · exact .refl s
  · split <;> exact alike_draw _ s

/-- Drawing an editor has no influence on when checks run. -/
theorem alike_render (settings : Settings) (host : Host) (e : EditorId) (s : Session) :
    s.Alike (s.render settings host e) := by
  unfold render
  split
  · exact .refl s
  · next entry _ =>
    exact (alike_releaseOf e s).trans <|
      (alike_mark host e .error entry.marked.errors _).trans <|
      (alike_mark host e .warning entry.marked.warnings _).trans <|
      (alike_note rfl _).trans <|
      (alike_showStatus settings host e _).trans (alike_showIssues host e _)

/-! ## What happens outside -/

def rang (a : Alarm) (s : Session) : Session :=
  { s.disarm [a.token] with queue := s.queue ++ [.timerFired a.editor a.token] }

def ended (run : Run) (result : Except Failure (List Record)) (s : Session) : Session :=
  { s with
    runs := s.runs.filter fun r => r.generation ≠ run.generation
    queue := s.queue ++ [.runDone run.editor run.generation result] }

/-- Only a timer that is set and due can ring. -/
theorem ring_cases (token : TimerToken) (s : Session) :
    s.ring token = s ∨ ∃ a ∈ s.alarms, a.due ≤ s.now ∧ s.ring token = s.rang a := by
  unfold ring
  split
  · exact .inl rfl
  · next a hfind =>
    have htoken : a.token = token := by simpa using List.find?_some hfind
    subst htoken
    split
    · next hdue =>
      exact .inr ⟨a, List.mem_of_find?_eq_some hfind, of_decide_eq_true hdue, rfl⟩
    · exact .inl rfl

/-- Only a run that is under way can end. -/
theorem finish_cases (generation : Generation) (result : Except Failure (List Record))
    (s : Session) :
    s.finish generation result = s ∨
      ∃ run ∈ s.runs, s.finish generation result = s.ended run result := by
  unfold finish
  split
  · exact .inl rfl
  · next run hfind =>
    have hgeneration : run.generation = generation := by simpa using List.find?_some hfind
    subst hgeneration
    exact .inr ⟨run, List.mem_of_find?_eq_some hfind, rfl⟩

@[simp] theorem entry?_ring (token : TimerToken) (s : Session) (e : EditorId) :
    Session.entry? (s.ring token) e = s.entry? e := by
  rcases ring_cases token s with h | ⟨a, -, -, h⟩ <;> rw [h]
  rfl

@[simp] theorem entry?_finish (generation : Generation)
    (result : Except Failure (List Record)) (s : Session) (e : EditorId) :
    Session.entry? (s.finish generation result) e = s.entry? e := by
  rcases finish_cases generation result s with h | ⟨run, -, h⟩ <;> rw [h]
  rfl

end Session

end Gutter
