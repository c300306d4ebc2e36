import Gutter.Proofs.Session.Kept
import Mathlib.Algebra.Group.Nat.Defs
import Mathlib.Data.List.Nodup
import Mathlib.Data.List.Perm.Basic

/-!
# The books on runs

What a session tells of its runs: which were started, which are still outstanding, which were
stored, and the numbers that are counted. Whatever a session does, it moves the books in one of five
ways.
-/

namespace Gutter

abbrev RunName := EditorId × Generation

namespace Log.Event

def started? : Log.Event → Option RunName
  | .runStart e generation _ _ => some (e, generation)
  | _ => none

def stored? : Log.Event → Option RunName
  | .runDone e generation _ => some (e, generation)
  | _ => none

end Log.Event

def Event.run? : Event → Option RunName
  | .runDone e generation _ => some (e, generation)
  | .timerFired .. => none

def Run.name (r : Run) : RunName := (r.editor, r.generation)

/-- What a session tells of its runs: all so far in the order in which they started, those whose end
has not been handled, and those whose findings were stored. -/
structure Ledger where
  clock : Generation
  started : List RunName
  outstanding : List RunName
  stored : List RunName
  asked : Nat
  runsStarted : UInt64
  runsCompleted : UInt64
  runsFailed : UInt64
  staleCompletions : UInt64

/-- What decides when checks run tells of the runs. -/
def Work.ledger (w : Work) : Ledger where
  clock := w.clock
  started := w.record.filterMap Log.Event.started?
  outstanding := w.runs.map Run.name ++ w.queue.filterMap Event.run?
  stored := w.record.filterMap Log.Event.stored?
  asked := w.requests.length
  runsStarted := w.runsStarted
  runsCompleted := w.runsCompleted
  runsFailed := w.runsFailed
  staleCompletions := w.staleCompletions

def Session.ledger (s : Session) : Ledger := s.work.ledger

namespace Ledger

variable {l l' l'' : Ledger} {r : RunName}

/-- The books agree but for the order of the outstanding runs. -/
structure Same (l l' : Ledger) : Prop where
  rest : l' = { l with outstanding := l'.outstanding }
  outstanding : l'.outstanding.Perm l.outstanding

/-- The books after a run has started. -/
def start (e : EditorId) (l : Ledger) : Ledger :=
  { l with
    clock := l.clock.next
    started := l.started ++ [(e, l.clock.next)]
    outstanding := (e, l.clock.next) :: l.outstanding
    asked := l.asked + 1
    runsStarted := l.runsStarted + 1 }

def settle (r : RunName) (l : Ledger) : Ledger :=
  { l with outstanding := l.outstanding.erase r }

/-- The books are in order. -/
structure Sound (l : Ledger) : Prop where
  numbered : l.started.map (fun r => r.2.number.toNat) = List.range' 1 l.started.length
  clock : l.clock.number.toNat = l.started.length
  outstanding : ∀ r ∈ l.outstanding, r ∈ l.started
  nodup : l.outstanding.Nodup
  asked : l.asked = l.started.length
  counted : l.runsStarted.toNat = l.started.length
  balance : l.started.length = l.runsCompleted.toNat + l.runsFailed.toNat +
    l.staleCompletions.toNat + l.outstanding.length

namespace Sound

theorem mem_started (h : l.Sound) (hr : r ∈ l.started) :
    1 ≤ r.2.number.toNat ∧ r.2.number.toNat ≤ l.clock.number.toNat := by
  have hmem : r.2.number.toNat ∈ l.started.map (fun r => r.2.number.toNat) :=
    List.mem_map_of_mem hr
  rw [h.numbered, List.mem_range'_1] at hmem
  have hclock := h.clock
  omega

theorem nodup_generations (h : l.Sound) : (l.started.map Prod.snd).Nodup := by
  have hn : (l.started.map fun r => r.2.number.toNat).Nodup := by
    rw [h.numbered]
    exact List.nodup_range'
  have hm : l.started.map (fun r => r.2.number.toNat) =
      (l.started.map Prod.snd).map fun g => g.number.toNat := by simp
  exact List.Nodup.of_map _ (hm ▸ hn)

theorem eq_of_generation_eq (h : l.Sound) {r r' : RunName} (hr : r ∈ l.started)
    (hr' : r' ∈ l.started) (hg : r.2 = r'.2) : r = r' :=
  List.inj_on_of_nodup_map h.nodup_generations hr hr' hg

/-- The number of the next run is a new one. -/
theorem ne_next (h : l.Sound) (hb : l.started.length + 1 < 2 ^ 64) (hr : r ∈ l.started) :
    r.2 ≠ l.clock.next := by
  intro he
  have hmem := h.mem_started hr
  have hclock := h.clock
  have hnext : l.clock.next.number.toNat = l.clock.number.toNat + 1 := by
    simp only [Generation.next, UInt64.toNat_add, UInt64.toNat_one]
    omega
  rw [he] at hmem
  omega

theorem same (h : l.Sound) (hs : l.Same l') : l'.Sound := by
  obtain ⟨hrest, hperm⟩ := hs
  rw [hrest]
  exact
    { numbered := h.numbered
      clock := h.clock
      outstanding := fun r hr => h.outstanding r (hperm.mem_iff.mp hr)
      nodup := hperm.nodup_iff.mpr h.nodup
      asked := h.asked
      counted := h.counted
      balance := by simpa only [hperm.length_eq] using h.balance }

theorem start (h : l.Sound) (hb : l.started.length + 1 < 2 ^ 64) (e : EditorId) :
    (l.start e).Sound := by
  have hclock := h.clock
  have hcounted := h.counted
  have hnext : l.clock.next.number.toNat = l.started.length + 1 := by
    simp only [Generation.next, UInt64.toNat_add, UInt64.toNat_one]
    omega
  have hfresh : (e, l.clock.next) ∉ l.outstanding :=
    fun hm => h.ne_next hb (h.outstanding _ hm) rfl
  constructor
  · simp only [Ledger.start, List.map_append, h.numbered, List.length_append, List.map_cons,
      List.map_nil, List.length_singleton, hnext, List.range'_1_concat]
    rw [Nat.add_comm]
  · simpa [Ledger.start] using hnext
  · intro r hr
    rcases List.mem_cons.mp hr with rfl | hr
    · exact List.mem_concat_self
    · exact List.mem_append_left _ (h.outstanding r hr)
  · exact List.nodup_cons.mpr ⟨hfresh, h.nodup⟩
  · simp [Ledger.start, h.asked]
  · simp only [Ledger.start, UInt64.toNat_add, UInt64.toNat_one, List.length_append,
      List.length_singleton]
    omega
  · have hbalance := h.balance
    simp only [Ledger.start, List.length_append, List.length_cons, List.length_nil]
    omega

/-- The end of an outstanding run is counted in one place. -/
theorem settle (h : l.Sound) (hr : r ∈ l.outstanding) {completed failed stale : UInt64}
    (hc : completed.toNat + failed.toNat + stale.toNat =
      l.runsCompleted.toNat + l.runsFailed.toNat + l.staleCompletions.toNat + 1)
    (stored : List RunName) :
    Sound { l.settle r with
      runsCompleted := completed
      runsFailed := failed
      staleCompletions := stale
      stored } where
  numbered := h.numbered
  clock := h.clock
  outstanding r hr := h.outstanding r (List.mem_of_mem_erase hr)
  nodup := h.nodup.erase r
  asked := h.asked
  counted := h.counted
  balance := by
    have hbalance := h.balance
    have hlength := List.length_erase_of_mem hr
    have hpos := List.length_pos_of_mem hr
    simp only [Ledger.settle]
    omega

theorem toNat_succ (h : l.Sound) (hb : l.started.length < 2 ^ 64) (hr : r ∈ l.outstanding)
    {n : UInt64}
    (hn : n.toNat ≤ l.runsCompleted.toNat + l.runsFailed.toNat + l.staleCompletions.toNat) :
    (n + 1).toNat = n.toNat + 1 := by
  have hbalance := h.balance
  have hpos := List.length_pos_of_mem hr
  simp only [UInt64.toNat_add, UInt64.toNat_one]
  omega

end Sound

end Ledger

namespace Session

variable {s s' : Session} {lasting : List EditorId} {r : RunName} {e : EditorId}

/-! ## What a step does to the books -/

/-- No run starts, and no end of a run is handled. Runs may end, new editors may be remembered, and
all but some lasting ones may be forgotten. -/
structure SameRuns (lasting : List EditorId) (s s' : Session) : Prop where
  rest : s'.ledger = { s.ledger with outstanding := s'.ledger.outstanding }
  outstanding : s.ledger.Sound → s'.ledger.outstanding.Perm s.ledger.outstanding
  entry : ∀ e entry', s'.entry? e = some entry' →
    (entry'.isRunning = false ∧ entry'.generation = .initial) ∨
      ∃ entry, s.entry? e = some entry ∧ entry'.isRunning = entry.isRunning ∧
        entry'.generation = entry.generation
  lasting : ∀ e ∈ lasting, ∀ entry, s.entry? e = some entry →
    ∃ entry', s'.entry? e = some entry' ∧ entry'.isRunning = entry.isRunning ∧
      entry'.generation = entry.generation

/-- A run starts for an editor that is idle. -/
structure Starts (e : EditorId) (s s' : Session) : Prop where
  ledger : (s.ledger.start e).Same s'.ledger
  idle : ∃ entry, s.entry? e = some entry ∧ entry.isRunning = false
  running : s'.AwaitsRun e s.ledger.clock.next
  others : ∀ x, x ≠ e → s'.entry? x = s.entry? x

/-- The end of a run that its editor waits for is handled. -/
structure Takes (r : RunName) (s s' : Session) : Prop where
  awaited : s.AwaitsRun r.1 r.2
  mem : r ∈ s.ledger.outstanding
  ledger :
    Ledger.Same { s.ledger.settle r with
      runsCompleted := s.ledger.runsCompleted + 1
      stored := s.ledger.stored ++ [r] } s'.ledger ∨
    Ledger.Same { s.ledger.settle r with runsFailed := s.ledger.runsFailed + 1 } s'.ledger
  idle : ∃ entry', s'.entry? r.1 = some entry' ∧ entry'.isRunning = false ∧
    entry'.generation = r.2
  others : ∀ x, x ≠ r.1 → s'.entry? x = s.entry? x

/-- The end of a run that no editor waits for is handled. -/
structure Disregards (r : RunName) (s s' : Session) : Prop where
  unawaited : ¬ s.AwaitsRun r.1 r.2
  mem : r ∈ s.ledger.outstanding
  ledger : Ledger.Same
    { s.ledger.settle r with staleCompletions := s.ledger.staleCompletions + 1 } s'.ledger
  entry : ∀ x, s'.entry? x = s.entry? x

theorem SameRuns.started (h : s.SameRuns lasting s') : s'.ledger.started = s.ledger.started := by
  rw [h.rest]

theorem Starts.started (h : s.Starts e s') :
    s'.ledger.started = s.ledger.started ++ [(e, s.ledger.clock.next)] := by
  rw [h.ledger.rest]
  rfl

theorem Takes.started (h : s.Takes r s') : s'.ledger.started = s.ledger.started := by
  rcases h.ledger with hl | hl <;> rw [hl.rest] <;> rfl

theorem Takes.outstanding (h : s.Takes r s') :
    s'.ledger.outstanding.Perm (s.ledger.outstanding.erase r) := by
  rcases h.ledger with hl | hl
  · exact hl.outstanding
  · exact hl.outstanding

theorem Disregards.started (h : s.Disregards r s') :
    s'.ledger.started = s.ledger.started := by
  rw [h.ledger.rest]
  rfl

theorem SameRuns.same (h : s.SameRuns lasting s') (hs : s.ledger.Sound) :
    s.ledger.Same s'.ledger :=
  ⟨h.rest, h.outstanding hs⟩

theorem SameRuns.of_entry (hl : s'.ledger = s.ledger) (he : ∀ e, s'.entry? e = s.entry? e) :
    s.SameRuns lasting s' where
  rest := by rw [hl]
  outstanding _ := by rw [hl]
  entry e entry' h := .inr ⟨entry', (he e).symm.trans h, rfl, rfl⟩
  lasting e _ entry h := ⟨entry, (he e).trans h, rfl, rfl⟩

theorem Alike.ledger (h : s.Alike s') : s'.ledger = s.ledger := congrArg Work.ledger h.work

theorem Alike.sameRuns (h : s.Alike s') : s.SameRuns lasting s' where
  rest := by rw [h.ledger]
  outstanding _ := by rw [h.ledger]
  entry e entry' he' := by
    obtain ⟨markers, he⟩ := h.symm.exists_entry he'
    exact .inr ⟨_, he, rfl, rfl⟩
  lasting e _ entry he := by
    obtain ⟨markers, he'⟩ := h.exists_entry he
    exact ⟨_, he', rfl, rfl⟩

/-- An edit of an entry that leaves its run alone. -/
theorem sameRuns_edit {f : Entry → Entry} (hr : ∀ entry, (f entry).isRunning = entry.isRunning)
    (hg : ∀ entry, (f entry).generation = entry.generation) (hl : s'.ledger = s.ledger)
    (he : ∀ x, s'.entry? x = Session.entry? (s.edit e f) x) : s.SameRuns lasting s' where
  rest := by rw [hl]
  outstanding _ := by rw [hl]
  entry x entry' h := by
    rw [he, entry?_edit] at h
    split at h
    · obtain ⟨entry, hx, rfl⟩ := Option.map_eq_some_iff.mp h
      exact .inr ⟨entry, hx, hr entry, hg entry⟩
    · exact .inr ⟨entry', h, rfl, rfl⟩
  lasting x _ entry h := by
    rw [he, entry?_edit, h]
    split
    · exact ⟨_, rfl, hr entry, hg entry⟩
    · exact ⟨_, rfl, rfl, rfl⟩

theorem ledger_note (event : Log.Event) (s : Session) :
    (s.note event).ledger = { s.ledger with
      started := s.ledger.started ++ event.started?.toList
      stored := s.ledger.stored ++ event.stored?.toList } := by
  have hrecord : (s.note event).record = s.record ++ [event].filter (!·.isAside) :=
    List.filter_append ..
  have hs : ([event].filter (!·.isAside)).filterMap Log.Event.started? =
      event.started?.toList := by
    cases event <;> rfl
  have hd : ([event].filter (!·.isAside)).filterMap Log.Event.stored? =
      event.stored?.toList := by
    cases event <;> rfl
  simp only [ledger, work, Work.ledger, hrecord, List.filterMap_append, hs, hd]
  rfl

theorem sameRuns_ensure (e : EditorId) (file : Path) (s : Session) :
    s.SameRuns lasting (s.ensure e file) where
  rest := rfl
  outstanding _ := .refl _
  entry x entry' h := by
    rw [entry?_ensure] at h
    split at h
    · next hx =>
      subst hx
      cases he : s.entry? x with
      | none =>
          rw [he] at h
          obtain rfl := Option.some.inj h
          exact .inl ⟨rfl, rfl⟩
      | some entry =>
          rw [he] at h
          obtain rfl := Option.some.inj h
          exact .inr ⟨_, rfl, rfl, rfl⟩
    · exact .inr ⟨entry', h, rfl, rfl⟩
  lasting x _ entry h := by
    rw [entry?_ensure]
    split
    · next hx =>
      subst hx
      rw [h]
      exact ⟨_, rfl, rfl, rfl⟩
    · exact ⟨entry, h, rfl, rfl⟩

theorem sameRuns_setTimer (settings : Settings) (e : EditorId) (s : Session) :
    s.SameRuns lasting (s.setTimer settings e) := by
  refine sameRuns_edit (e := e) (f := .setTimer (some s.nextTimer)) (fun _ => rfl)
    (fun _ => rfl) ?_ fun _ => rfl
  simp only [setTimer, ledger_note, Log.Event.started?, Log.Event.stored?, Option.toList_none,
    List.append_nil]
  rfl

theorem sameRuns_close {keep : EditorId → Bool} (h : ∀ e ∈ lasting, keep e = true)
    (s : Session) : s.SameRuns lasting (s.close keep) where
  rest := rfl
  outstanding _ := .refl _
  entry e entry' he := by
    rw [entry?_close] at he
    split at he
    · exact .inr ⟨entry', he, rfl, rfl⟩
    · cases he
  lasting e hmem entry he := by
    rw [entry?_close, if_pos (h e hmem)]
    exact ⟨entry, he, rfl, rfl⟩

theorem ledger_ring (token : TimerToken) (s : Session) : (s.ring token).ledger = s.ledger := by
  rcases ring_cases token s with h | ⟨a, -, -, h⟩ <;> rw [h]
  simp [ledger, work, Work.ledger, rang, disarm, record, Event.run?]

theorem eq_of_mem_runs (hs : s.ledger.Sound) {run run' : Run} (hr : run ∈ s.runs)
    (hr' : run' ∈ s.runs) (hg : run.generation = run'.generation) : run = run' := by
  have hstarted : ∀ r ∈ s.runs, r.name ∈ s.ledger.started := fun r hr =>
    hs.outstanding _ (List.mem_append_left _ (List.mem_map_of_mem hr))
  have hnodup : (s.runs.map Run.name).Nodup := (List.nodup_append.mp hs.nodup).1
  exact List.inj_on_of_nodup_map hnodup hr hr'
    (hs.eq_of_generation_eq (hstarted run hr) (hstarted run' hr') hg)

/-- A run that is under way ends: it stays outstanding until that is handled. -/
theorem sameRuns_finish (generation : Generation) (result : Except Failure (List Record))
    (s : Session) : s.SameRuns lasting (s.finish generation result) := by
  rcases finish_cases generation result s with h | ⟨run, hrun, h⟩ <;> rw [h]
  · exact .of_entry rfl fun _ => rfl
  · refine ⟨rfl, fun hs => ?_, fun e entry' h => .inr ⟨entry', h, rfl, rfl⟩,
      fun e _ entry h => ⟨entry, h, rfl, rfl⟩⟩
    have hnodup : (s.runs.map Run.name).Nodup := (List.nodup_append.mp hs.nodup).1
    have hperm := perm_cons_filter_ne hnodup.of_map hrun fun r hr => eq_of_mem_runs hs hr hrun
    have hmap := hperm.map Run.name
    simp only [ledger, work, Work.ledger, ended, List.filterMap_append]
    refine List.Perm.trans ?_ (hmap.append_right _).symm
    exact (List.perm_append_comm.append_left _).trans List.perm_middle

theorem ledger_ask (request : Request) (s : Session) :
    (s.ask request).ledger = { s.ledger with asked := s.ledger.asked + 1 } := by
  simp [ledger, work, Work.ledger, ask, record]

theorem starts_start (settings : Settings) {target : Target} (text : String) {entry : Entry}
    (he : s.entry? target.editor = some entry) (hr : entry.isRunning = false) :
    s.Starts target.editor (s.start settings target text) where
  ledger := by
    have hl : (s.start settings target text).ledger = { s.ledger.start target.editor with
        outstanding := s.runs.map Run.name ++ [(target.editor, s.clock.next)] ++
          s.queue.filterMap Event.run? } := by
      simp only [start, ledger_ask, ledger_note, Log.Event.stored?, Option.toList_none,
        List.append_nil]
      simp only [ledger, work, Work.ledger, count, edit, disarm, List.map_append]
      rfl
    rw [hl]
    refine ⟨rfl, ?_⟩
    rw [List.append_assoc]
    exact List.perm_middle
  idle := ⟨entry, he, hr⟩
  running := by
    refine ⟨entry.start s.clock.next, ?_, rfl, rfl⟩
    rw [entry?_start, if_pos rfl, he]
    rfl
  others x hx := by rw [entry?_start, if_neg hx]

/-! ## Events -/

variable {rest : List Event}

theorem ledger_pop_timerFired {token : TimerToken} (hq : s.queue = .timerFired e token :: rest) :
    s.pop.ledger = s.ledger := by
  simp only [ledger, work, Work.ledger, pop, hq]
  rfl

theorem sameRuns_takeTimer {token : TimerToken} (hq : s.queue = .timerFired e token :: rest) :
    s.SameRuns lasting (s.pop.takeTimer e token) :=
  sameRuns_edit (e := e) (f := .setTimer none) (fun _ => rfl) (fun _ => rfl)
    (ledger_pop_timerFired hq) fun _ => rfl

theorem mem_outstanding_of_queue {generation : Generation}
    {result : Except Failure (List Record)} (hq : s.queue = .runDone e generation result :: rest) :
    (e, generation) ∈ s.ledger.outstanding := by
  simp [ledger, work, Work.ledger, hq, Event.run?]

/-- The run whose end is handled is outstanding no more. -/
theorem ledger_pop_runDone {generation : Generation} {result : Except Failure (List Record)}
    (hq : s.queue = .runDone e generation result :: rest) :
    (s.ledger.settle (e, generation)).Same s.pop.ledger := by
  refine ⟨rfl, ?_⟩
  have hperm : s.ledger.outstanding.Perm ((e, generation) :: s.pop.ledger.outstanding) := by
    simp only [ledger, work, Work.ledger, pop, hq]
    exact List.perm_middle
  have herase := hperm.erase (e, generation)
  rw [List.erase_cons_head] at herase
  exact herase.symm

theorem takes_store {generation : Generation} {records : List Record}
    (hq : s.queue = .runDone e generation (.ok records) :: rest) (hw : s.AwaitsRun e generation)
    (findings : Findings) : s.Takes (e, generation) (s.pop.store e generation findings) where
  awaited := hw
  mem := mem_outstanding_of_queue hq
  ledger := by
    have hpop := ledger_pop_runDone hq
    have hl : (s.pop.store e generation findings).ledger = { s.pop.ledger with
        runsCompleted := s.ledger.runsCompleted + 1
        stored := s.ledger.stored ++ [(e, generation)] } := by
      change ((s.pop.note (.runDone e generation findings.issues.length)).count
        .countCompletion).ledger = _
      change { (s.pop.note (.runDone e generation findings.issues.length)).ledger with
        runsCompleted := s.ledger.runsCompleted + 1 } = _
      rw [ledger_note]
      simp only [Log.Event.started?, Log.Event.stored?, Option.toList_none, Option.toList_some,
        List.append_nil]
      rfl
    rw [hl]
    exact .inl ⟨rfl, hpop.outstanding⟩
  idle := by
    obtain ⟨entry, he, -, hg⟩ := hw
    exact ⟨entry.commit findings, entry?_store (s := s.pop) he generation findings, rfl, hg⟩
  others x hx := entry?_edit_of_ne hx _ _

theorem takes_abandon {generation : Generation} {failure : Failure}
    (hq : s.queue = .runDone e generation (.error failure) :: rest)
    (hw : s.AwaitsRun e generation) :
    s.Takes (e, generation) (s.pop.abandon e failure) where
  awaited := hw
  mem := mem_outstanding_of_queue hq
  ledger := by
    have hpop := ledger_pop_runDone hq
    have hl : (s.pop.abandon e failure).ledger = { s.pop.ledger with
        runsFailed := s.ledger.runsFailed + 1 } := by
      simp only [abandon, ledger_note, Log.Event.started?, Log.Event.stored?, Option.toList_none,
        List.append_nil]
      rfl
    rw [hl]
    exact .inr ⟨rfl, hpop.outstanding⟩
  idle := by
    obtain ⟨entry, he, -, hg⟩ := hw
    refine ⟨entry.fail, ?_, rfl, hg⟩
    change Session.entry? (s.pop.edit e .fail) e = _
    rw [entry?_edit_self]
    exact congrArg (Option.map Entry.fail) he
  others x hx := entry?_edit_of_ne hx _ s.pop

theorem disregards_disregard {generation : Generation} {result : Except Failure (List Record)}
    (hq : s.queue = .runDone e generation result :: rest) (hw : ¬ s.AwaitsRun e generation)
    (reason : CompletionError) : s.Disregards (e, generation) (s.pop.disregard reason) where
  unawaited := hw
  mem := mem_outstanding_of_queue hq
  ledger := by
    have hpop := ledger_pop_runDone hq
    have hl : (s.pop.disregard reason).ledger = { s.pop.ledger with
        staleCompletions := s.ledger.staleCompletions + 1 } := by
      simp only [disregard, ledger_note, Log.Event.started?, Log.Event.stored?,
        Option.toList_none, List.append_nil]
      rfl
    rw [hl]
    exact ⟨rfl, hpop.outstanding⟩
  entry _ := rfl

end Session

/-! ## Along a course -/

open Session

/-- On its own the service either starts a run or leaves the runs alone. -/
theorem Deed.sameRuns_or_starts {v : Service} {host : Host} {s s' : Session}
    (h : Deed v host s s') (lasting : List EditorId) :
    s.SameRuns lasting s' ∨ ∃ e, s.Starts e s' := by
  cases h.onChecks with
  | alike ha => exact .inl ha.sameRuns
  | soil e => exact .inl (sameRuns_edit (f := .soil) (fun _ => rfl) (fun _ => rfl) rfl fun _ => rfl)
  | meet => exact .inl (sameRuns_ensure _ _ s)
  | setTimer => exact .inl (sameRuns_setTimer _ _ s)
  | start hf hk he hr => exact .inr ⟨_, starts_start v.settings _ he hr⟩

/-- What is kept whatever happens to the books is kept along every course. -/
theorem kept_of_runs {v : Service} {H : Host → Prop} {lasting : List EditorId}
    {P : Session → Prop} (same : ∀ {s s'}, s.SameRuns lasting s' → P s → P s')
    (start : ∀ {s s' e}, s.Starts e s' → P s → P s')
    (take : ∀ {s s' r}, s.Takes r s' → P s → P s')
    (disregard : ∀ {s s' r}, s.Disregards r s' → P s → P s') : Kept v H lasting P := by
  have hdeed : ∀ {host s s'}, H host → Deed v host s s' → P s → P s' := by
    intro host s s' _ hd hs
    rcases hd.sameRuns_or_starts lasting with h | ⟨e, h⟩
    · exact same h hs
    · exact start h hs
  have hevents : KeptByEvents v H P :=
    { deed := hdeed
      ignore := fun hq _ => same (.of_entry (ledger_pop_timerFired hq) fun _ => rfl)
      takeTimer := fun hq _ _ => same (sameRuns_takeTimer hq)
      disregard := fun reason hq hw => disregard (disregards_disregard hq hw reason)
      abandon := fun hq hw => take (takes_abandon hq hw)
      store := fun _ hq hw hs =>
        same (alike_render _ _ _ _).sameRuns (take (takes_store hq hw _) hs) }
  exact
    { deed := hdeed
      handleNext := hevents.handleNext
      close := fun hkeep => same (sameRuns_close hkeep _)
      refocus := fun e _ => same (alike_refocus _ _ e _).sameRuns
      blank := same (alike_draw _ _).sameRuns
      pass := fun ms => same (.of_entry rfl fun _ => rfl)
      ring := fun token => same (.of_entry (ledger_ring token _) (entry?_ring token _))
      finish := fun generation result => same (sameRuns_finish generation result _) }

end Gutter
