import Gutter.Proofs.Session.Shown
import Gutter.Proofs.Terminal.Calls

/-!
# Waiting for the calls

Each call that ends changes what is remembered of its own editor and of no other, so the order in
which they end leaves no trace.
-/

namespace Gutter

namespace Session

variable {s : Session}

/-! ## Runs that end -/

theorem bare?_edit {f : Entry → Entry} (h : ∀ entry, (f entry).takeMarkers = f entry.takeMarkers)
    (e : EditorId) (s : Session) (x : EditorId) :
    Session.bare? (s.edit e f) x = if x = e then (s.bare? x).map f else s.bare? x := by
  rw [bare?, bare?, entry?_edit]
  split
  · rw [Option.map_map, Option.map_map]
    exact congrArg (Option.map · (s.entry? x)) (funext h)
  · rfl

/-- If no two runs have the same number, the number tells which run has ended. -/
theorem finish_of_mem {run : Run} (hn : (s.runs.map Run.generation).Nodup) (hr : run ∈ s.runs)
    (result : Except Failure (List Record)) :
    s.finish run.generation result = s.ended run result := by
  have hfind : s.runs.find? (fun r => r.generation = run.generation) = some run := by
    cases h : s.runs.find? (fun r => r.generation = run.generation) with
    | none => simpa using List.find?_eq_none.mp h run hr
    | some r =>
        have hg : r.generation = run.generation := by simpa using List.find?_some h
        exact congrArg some
          (List.inj_on_of_nodup_map hn (List.mem_of_find?_eq_some h) hr hg)
  simp only [finish, hfind, ended]

end Session

def Entry.settle (settings : Settings) (e : Entry) : Except Failure (List Record) → Entry
  | .ok records => e.commit (.ofRecords records settings.severityLevel)
  | .error _ => e.fail

/-- The end of the run that an editor waits for changes what is remembered of this editor. Only its
markers may differ from what is said here. -/
theorem Service.handleNext_runDone {v : Service} (host : Host) {s : Session} {run : Run}
    {result : Except Failure (List Record)} {entry : Entry}
    (hq : s.queue = [.runDone run.editor run.generation result])
    (he : s.entry? run.editor = some entry) (hr : entry.isRunning = true)
    (hg : entry.generation = run.generation) (hn : entry.needsCheck = false) :
    (v.handleNext host s).queue = [] ∧ (v.handleNext host s).runs = s.runs ∧
      ∀ x, (v.handleNext host s).bare? x =
        if x = run.editor then (s.bare? x).map (·.settle v.settings result) else s.bare? x := by
  have hpop : v.handleNext host s =
      v.handle host (.runDone run.editor run.generation result) s.pop := by
    simp only [handleNext, hq, Session.pop, List.tail_cons]
  have hqueue : s.pop.queue = [] := congrArg List.tail hq
  have he' : s.pop.entry? run.editor = some entry := he
  rw [hpop, ← hg]
  cases result with
  | ok records =>
      have hstored := handle_runDone_ok he' hr v host records
      simp only [hn, Bool.false_eq_true, ite_false] at hstored
      have ha := Session.alike_render v.settings host run.editor (s.pop.store run.editor
        entry.generation (.ofRecords records v.settings.severityLevel))
      rw [hstored]
      refine ⟨(congrArg Work.queue ha.work).trans hqueue, congrArg Work.runs ha.work, fun x => ?_⟩
      rw [ha.bare]
      exact Session.bare?_edit (f := .commit _) (fun _ => rfl) _ _ x
  | error failure =>
      have hfailed : v.handle host (.runDone run.editor entry.generation (.error failure)) s.pop =
          s.pop.abandon run.editor failure := by
        simp [handle, Session.complete, he', hr, Session.abandon]
      rw [hfailed]
      exact ⟨hqueue, rfl, Session.bare?_edit (f := .fail) (fun _ => rfl) _ _⟩

namespace Check

open Session

variable {settings : Settings} {documents : List (Path × String)} {answers : Answers}
  {names : Nat → MarkerId} {host : Host} {s : Session}

def Call.settled (settings : Settings) (c : Call) (result : Except Failure (List Record)) : Entry :=
  c.awaiting.settle settings result

/-- Every call has ended or is under way, and what it has found is shown. -/
structure Settling (settings : Settings) (documents : List (Path × String)) (answers : Answers)
    (names : Nat → MarkerId) (s : Session) : Prop extends Shown names s where
  queue : s.queue = []
  called : ∀ run ∈ s.runs, ∃ c, call? settings documents run.editor = some c ∧ c.run = run
  distinct : (s.runs.map Run.generation).Nodup
  entries : ∀ e, s.bare? e = (call? settings documents e).map fun c =>
    if c.run ∈ s.runs then c.awaiting else c.settled settings (answers.result c.run)

/-! ## Notes -/

theorem noteAll_eq (events : List Log.Event) (s : Session) :
    noteAll events s = { s with journal := { s.journal with log := s.journal.log ++ events } } := by
  induction events generalizing s with
  | nil => simp [noteAll]
  | cons event events ih =>
      rw [noteAll, List.foldl_cons, ← noteAll, ih]
      simp [Session.note]

theorem unmarked_noteAll (events : List Log.Event) (s : Session) :
    s.Unmarked (noteAll events s) := by
  rw [noteAll_eq]
  exact unmarked_of_markers rfl rfl rfl rfl rfl

theorem Settling.noteAll (h : Settling settings documents answers names s)
    (events : List Log.Event) :
    Settling settings documents answers names (noteAll events s) := by
  have hshown : Shown names (Check.noteAll events s) :=
    h.toShown.of_unmarked (unmarked_noteAll events s) fun _ => by rw [noteAll_eq]; rfl
  rw [noteAll_eq] at hshown ⊢
  exact ⟨hshown, h.queue, h.called, h.distinct, h.entries⟩

/-! ## The end of a call -/

namespace Settling

/-- What is remembered of an editor whose call is under way. -/
theorem exists_entry (h : Settling settings documents answers names s) {run : Run}
    (hr : run ∈ s.runs) :
    ∃ c markers, call? settings documents run.editor = some c ∧ c.run = run ∧
      s.entry? run.editor = some { c.awaiting with markers } := by
  obtain ⟨c, hc, hrun⟩ := h.called run hr
  have hbare := h.entries run.editor
  rw [hc, Option.map_some, hrun, if_pos hr, bare?, Option.map_eq_some_iff] at hbare
  obtain ⟨entry, he, hbare⟩ := hbare
  refine ⟨c, entry.markers, hc, hrun, he.trans (congrArg some ?_)⟩
  exact congrArg (fun bare : Entry => { bare with markers := entry.markers }) hbare

theorem isBusy (h : Settling settings documents answers names s) {run : Run} (hr : run ∈ s.runs) :
    isBusy s = true := by
  obtain ⟨c, markers, -, -, he⟩ := h.exists_entry hr
  exact List.any_eq_true.mpr ⟨_, Table.get?_eq_some_iff.mp he, rfl⟩

/-- When no call is under way, no editor waits for one. -/
theorem isBusy_eq_false (h : Settling settings documents answers names s) (hr : s.runs = []) :
    Check.isBusy s = false := by
  refine List.any_eq_false.mpr fun ⟨e, entry⟩ hmem => ?_
  have he : s.entry? e = some entry := Table.get?_eq_some_iff.mpr hmem
  have hbare := h.entries e
  rw [bare?, he, Option.map_some, hr] at hbare
  obtain ⟨c, -, hbare⟩ := Option.map_eq_some_iff.mp hbare.symm
  rw [if_neg List.not_mem_nil] at hbare
  have hsettled : (c.settled settings (answers.result c.run)).isRunning = false := by
    rw [Call.settled]
    cases answers.result c.run <;> rfl
  have hrunning : entry.isRunning = false := (congrArg Entry.isRunning hbare).symm.trans hsettled
  simpa using hrunning

/-- A call ends, and the end is handled. -/
theorem finish (h : Settling settings documents answers names s)
    (hinj : Function.Injective names) (hh : host.marker = names) {run : Run} (hr : run ∈ s.runs) :
    let s' := (Service.ofSettings settings).handleNext host
      (s.finish run.generation (answers.result run))
    Settling settings documents answers names s' ∧
      s'.runs = s.runs.filter fun r => r.generation ≠ run.generation := by
  obtain ⟨c, markers, hc, hrun, he⟩ := h.exists_entry hr
  have hshown := (shown_kept (Service.ofSettings settings) hinj).handleNext hh
    ((shown_kept (Service.ofSettings settings) hinj).finish run.generation (answers.result run)
      h.toShown)
  have hended := finish_of_mem h.distinct hr (answers.result run)
  rw [hended] at hshown ⊢
  have hq : (s.ended run (answers.result run)).queue =
      [.runDone run.editor run.generation (answers.result run)] := by
    rw [ended, h.queue]
    rfl
  obtain ⟨hqueue, hruns, hbare⟩ := Service.handleNext_runDone
    (v := .ofSettings settings) host hq he rfl (by rw [← hrun]; rfl) rfl
  refine ⟨⟨hshown, hqueue, ?_, ?_, fun x => ?_⟩, hruns⟩
  · rw [hruns]
    exact fun r hmem => h.called r (List.mem_of_mem_filter hmem)
  · rw [hruns]
    exact h.distinct.sublist (List.filter_sublist.map _)
  · rw [hbare, hruns]
    change (if x = run.editor then (s.bare? x).map _ else s.bare? x) = _
    rw [h.entries]
    by_cases hx : x = run.editor
    · rw [if_pos hx, hx, hc, Option.map_some, Option.map_some, Option.map_some, hrun, if_pos hr,
        if_neg (by simp [ended])]
      rfl
    · rw [if_neg hx]
      cases hcx : call? settings documents x with
      | none => rfl
      | some d =>
          have hmem : d.run ∈ (s.ended run (answers.result run)).runs ↔ d.run ∈ s.runs := by
            refine List.mem_filter.trans (and_iff_left_of_imp fun hd => ?_)
            refine decide_eq_true fun hg => hx ?_
            rw [← editor_of_call? hcx, List.inj_on_of_nodup_map h.distinct hd hr hg]
          simp only [Option.map_some, hmem]

end Settling

/-! ## The end of all calls -/

variable (host) in
/-- Once all calls under way have ended, in whatever order, as many events have been handled, and no
check is under way any more. -/
theorem Settling.wait (hinj : Function.Injective names) (hh : host.marker = names)
    {runs : List Run} (h : Settling settings documents answers names s) (hruns : runs.Perm s.runs) :
    let (s', n) := wait (.ofSettings settings) host answers runs s
    Settling settings documents answers names s' ∧ s'.runs = [] ∧ n = runs.length := by
  induction runs generalizing s with
  | nil => exact ⟨h, List.nil_perm.mp hruns, rfl⟩
  | cons run runs ih =>
      have hr : run ∈ s.runs := hruns.mem_iff.mp List.mem_cons_self
      have hnote := h.noteAll (answers.onEnd run)
      have hnoted : (Check.noteAll (answers.onEnd run) s).runs = s.runs := by rw [noteAll_eq]
      obtain ⟨hnext, hrest⟩ := hnote.finish hinj hh (hnoted ▸ hr)
      rw [hnoted] at hrest
      have hperm : runs.Perm (s.runs.filter fun r => r.generation ≠ run.generation) := by
        refine List.Perm.cons_inv (a := run) (hruns.trans ?_)
        exact perm_cons_filter_ne (List.Nodup.of_map _ h.distinct) hr
          fun b hb hg => List.inj_on_of_nodup_map h.distinct hb hr hg
      have hlast := ih hnext (hrest ▸ hperm)
      simp only [Check.wait, h.isBusy hr, ite_true]
      exact ⟨hlast.1, hlast.2.1, congrArg Nat.succ hlast.2.2⟩

end Check

end Gutter
