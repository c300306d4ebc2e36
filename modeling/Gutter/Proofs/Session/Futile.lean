import Gutter.Proofs.Session.Edits
import Gutter.Proofs.Session.Runs

/-!
# Runs that come to nothing

A run comes to nothing if it fails or if no editor waits for it. Its end is handled without the
host: what was found before stays as it is, and so does every other run. After a failure nothing
keeps the editor from being checked again, and the next request at once does so.
-/

namespace Gutter

namespace Session

variable {s s' : Session} {e : EditorId} {entry : Entry} {old : List Log.Event}

/-! ## Ready for a check -/

/-- Nothing is under way for an editor, and what was found for it, if anything, is out of date. An
editor that is not remembered is ready, too. -/
def Ready (e : EditorId) (s : Session) : Prop :=
  ∀ entry, s.entry? e = some entry → entry.isRunning = false ∧ entry.needsCheck = true

theorem ready_of_entry (he : s.entry? e = some entry) (hr : entry.isRunning = false)
    (hn : entry.needsCheck = true) : s.Ready e :=
  forall_entry_of_some he ⟨hr, hn⟩

theorem Ready.ensure (h : s.Ready e) (file : Path) : Session.Ready e (s.ensure e file) :=
  forall_entry_ensure ⟨rfl, rfl⟩ h

/-- A request at once for an editor that is ready starts a run on the text of its document. -/
theorem Ready.request (h : s.Ready e) {v : Service} {host : Host} {file : Path} {kind : DocKind}
    (hf : host.file? e = some file) (hk : v.extensions.kindOf? file = some kind) :
    v.request host e false s =
      ((s.ensure e file).start v.settings ⟨e, file, kind⟩ ((host.text? e).getD ""),
        .started s.clock.next) := by
  have hreq := Service.requested v host e false s
  generalize v.request host e false s = answer at hreq ⊢
  cases hreq with
  | gone hf' => simp [hf] at hf'
  | unsupported hf' hk' =>
      obtain rfl := Option.some.inj (hf.symm.trans hf')
      simp [hk] at hk'
  | busy _ _ he hr => simp [(h.ensure _ _ he).1] at hr
  | debounced _ _ _ _ hd => cases hd
  | cached _ _ he _ _ hn => simp [(h.ensure _ _ he).2] at hn
  | started hf' hk' =>
      obtain rfl := Option.some.inj (hf.symm.trans hf')
      obtain rfl := Option.some.inj (hk.symm.trans hk')
      rfl

def Reopened (e : EditorId) (old : List Log.Event) (s : Session) : Prop :=
  ∃ news, s.record = old ++ news ∧ (Log.Starts e news ∨ s.Ready e)

theorem Ready.unnoticed (h : s.Ready e) (hu : Unnoticed e s s') : s'.Ready e :=
  hu.forall_entry (fun _ _ => id) h

theorem Reopened.unnoticed (h : s.Reopened e old) (hu : Unnoticed e s s') :
    s'.Reopened e old := by
  obtain ⟨news, hs, h⟩ := h
  obtain ⟨more, hm, -⟩ := hu.record
  refine ⟨news ++ more, by rw [hm, hs, List.append_assoc], ?_⟩
  exact h.imp (·.append more) (·.unnoticed hu)

/-- The log tells more, and the entry of the editor has changed. -/
theorem Reopened.edit (h : s.Reopened e old) {more : List Log.Event}
    (hm : s'.record = s.record ++ more) {f : Entry → Entry}
    (he : s'.entry? e = (s.entry? e).map f)
    (hf : ∀ entry, s.entry? e = some entry → s.Ready e →
      (f entry).isRunning = false ∧ (f entry).needsCheck = true) : s'.Reopened e old := by
  obtain ⟨news, hs, h⟩ := h
  refine ⟨news ++ more, by rw [hm, hs, List.append_assoc], h.imp (·.append more) fun h => ?_⟩
  intro entry' he'
  obtain ⟨entry, hentry, rfl⟩ := Option.map_eq_some_iff.mp (he ▸ he')
  exact hf entry hentry h

theorem Reopened.deed {v : Service} {host : Host} (h : s.Reopened e old)
    (hd : Deed v host s s') : s'.Reopened e old := by
  have hseen := hd.seenFrom e
  cases hseen with
  | apart ha => exact h.unnoticed ha.unnoticed
  | soil =>
      exact h.edit (List.append_nil _).symm (entry?_edit_self e .soil s)
        fun entry he hq => ⟨(hq entry he).1, rfl⟩
  | meet =>
      obtain ⟨news, hs, h⟩ := h
      exact ⟨news, hs, h.imp_right (·.ensure _)⟩
  | setTimer =>
      exact h.edit (record_setTimer v.settings e s)
        ((entry?_setTimer v.settings e s e).trans (if_pos rfl)) fun entry he hq => hq entry he
  | start =>
      obtain ⟨news, hs, -⟩ := h
      refine ⟨_, by rw [record_start, hs, List.append_assoc], .inl ?_⟩
      exact ⟨_, _, _, List.mem_concat_self⟩

/-- A run that the editor waits for has started since: an editor that is ready waits for none. -/
theorem Reopened.starts (h : s.Reopened e old) {generation : Generation}
    (hw : s.AwaitsRun e generation) : ∃ news, s.record = old ++ news ∧ Log.Starts e news := by
  obtain ⟨news, hs, h | h⟩ := h
  · exact ⟨news, hs, h⟩
  · obtain ⟨entry, he, hr, -⟩ := hw
    rw [(h entry he).1] at hr
    cases hr

theorem reopened_keptByEvents (v : Service) (H : Host → Prop) (e : EditorId)
    (old : List Log.Event) : KeptByEvents v H (Reopened e old) where
  deed _ hd h := h.deed hd
  ignore _ _ h := h.unnoticed (unnoticed_pop _)
  takeTimer := by
    intro s x token rest entry hq he ht h
    by_cases hx : e = x
    · subst hx
      exact h.edit (List.append_nil _).symm
        (entry?_edit_self e (.setTimer none) _) fun entry he hq => hq entry he
    · exact h.unnoticed (apart_takeTimer hx hq).unnoticed
  disregard reason _ _ h := h.unnoticed (unnoticed_disregard reason _)
  abandon := by
    intro s x generation failure rest hq _ h
    by_cases hx : e = x
    · subst hx
      exact h.edit (record_note rfl _)
        (entry?_edit_self e .fail s.pop) fun _ _ _ => ⟨rfl, rfl⟩
    · exact h.unnoticed (apart_abandon hx hq).unnoticed
  store := by
    intro host s x generation records rest _ hq hw h
    by_cases hx : e = x
    · subst hx
      obtain ⟨news, hs, hstarts⟩ := h.starts hw
      obtain ⟨entry, he, -⟩ := hw
      obtain ⟨issues, -, hrecord, -⟩ := exists_stored he generation
        (.ofRecords records v.settings.severityLevel) v.settings host
      exact ⟨_, by rw [hrecord, hs, List.append_assoc], .inl (hstarts.append _)⟩
    · exact (h.unnoticed (apart_store hx hq _).unnoticed).unnoticed
        (alike_render v.settings host x _).apart.unnoticed

/-- An editor that is ready stays so until a run for it starts. -/
theorem reopened_kept (v : Service) (H : Host → Prop) (e : EditorId) (old : List Log.Event) :
    Kept v H [] (Reopened e old) where
  deed := (reopened_keptByEvents v H e old).deed
  handleNext := (reopened_keptByEvents v H e old).handleNext
  close {s keep} _ h := by
    obtain ⟨news, hs, h⟩ := h
    refine ⟨news, hs, h.imp_right fun h entry he => h entry ?_⟩
    rw [entry?_close] at he
    split at he
    · exact he
    · cases he
  refocus e' _ h := h.unnoticed (alike_refocus _ _ e' _).apart.unnoticed
  blank h := h.unnoticed (alike_draw _ _).apart.unnoticed
  pass ms h := h
  ring token h := h.unnoticed (apart_ring token _).unnoticed
  finish generation result h := h.unnoticed (unnoticed_finish generation result _)

/-! ## The end of such a run -/

variable {generation : Generation} {result : Except Failure (List Record)} {failure : Failure}
  {rest : List Event}

/-- What the end of a run that no editor waits for leaves behind: it is counted and logged, and that
is all. -/
def Dismissed (reason : CompletionError) (rest : List Event) (s s' : Session) : Prop :=
  s' = { s with
    queue := rest
    counters := { s.counters with staleCompletions := s.counters.staleCompletions + 1 }
    journal := { s.journal with log := s.journal.log ++ [.completionStale reason] } }

/-- What the failure of a run leaves behind that its editor waits for: the editor may be checked
again and needs it, and the failure is counted and logged. -/
structure Failed (e : EditorId) (failure : Failure) (rest : List Event) (s s' : Session) :
    Prop where
  entry : ∃ entry, s.entry? e = some entry ∧
    s'.entry? e = some { entry with isRunning := false, needsCheck := true }
  others : ∀ x, x ≠ e → s'.entry? x = s.entry? x
  rest : s' = { s with
    cache := s'.cache
    queue := rest
    counters := { s.counters with runsFailed := s.counters.runsFailed + 1 }
    journal := { s.journal with log := s.journal.log ++ [.runFailed (.failed e failure)] } }

theorem dismissed_disregard (hq : s.queue = .runDone e generation result :: rest)
    (reason : CompletionError) : Dismissed reason rest s (s.pop.disregard reason) := by
  simp only [Dismissed, disregard, count, note, pop, hq, List.tail_cons, Counters.countStale]

/-- The failure of a run that its editor waits for is handled in one way, whatever the host
answers. -/
theorem handleNext_eq_abandon (v : Service) (host : Host)
    (hq : s.queue = .runDone e generation (.error failure) :: rest)
    (hw : s.AwaitsRun e generation) : v.handleNext host s = s.pop.abandon e failure := by
  obtain ⟨entry, he, hr, rfl⟩ := hw
  have he' : s.pop.entry? e = some entry := he
  simp only [Service.handleNext_of_queue hq, Service.handle, complete, he', hr, Bool.not_true,
    Bool.false_or, ne_eq, not_true_eq_false, decide_false, Bool.false_eq_true, ite_false]
  rfl

theorem failed_abandon (hq : s.queue = .runDone e generation (.error failure) :: rest)
    (hw : s.AwaitsRun e generation) : Failed e failure rest s (s.pop.abandon e failure) := by
  obtain ⟨entry, he, -⟩ := hw
  exact
    { entry := ⟨entry, he, (entry?_edit_self e .fail s.pop).trans (congrArg _ he)⟩
      others := fun x hx => entry?_edit_of_ne hx .fail s.pop
      rest := by
        simp only [abandon, edit, count, note, pop, hq, List.tail_cons, Counters.countFailure] }

/-- Once a run has failed that the editor waited for, the next request at once starts a run,
whatever happens in between. -/
theorem Failed.ready {c : Scene} (h : Failed e failure rest s c.session) {later : List Scene.Move}
    {news : List Log.Event} (hs : (c.play later).session.record = c.session.record ++ news)
    (hn : ¬ Log.Starts e news) : (c.play later).session.Ready e := by
  have hready : c.session.Ready e := by
    obtain ⟨entry, -, he⟩ := h.entry
    exact ready_of_entry he rfl rfl
  have hlater : (c.play later).session.Reopened e c.session.record :=
    (reopened_kept c.service (fun _ => True) e _).play trivial
      ⟨[], (List.append_nil _).symm, .inr hready⟩ (fun m _ => m.within_true) (by simp)
  obtain ⟨news', hs', hopen⟩ := hlater
  obtain rfl := List.append_cancel_left (hs.symm.trans hs')
  exact hopen.resolve_left hn

/-! ## Along a course -/

/-- In every state that a session can reach, whatever the host answers: if no editor waits for the
run that has ended, which includes every run whose editor was forgotten since the run started, then
its end is only counted and logged. If the editor waits for the run and the run has failed, the
editor may be checked again and needs it, and nothing else changes; from then on, until a run for
that editor starts, every request at once for a document that can be checked starts one. -/
theorem futile_end_exact (v : Service) (host : Host) (moves : List Scene.Move)
    (hd : ((Scene.opening v host).play moves).isDisposed = false)
    (hq : ((Scene.opening v host).play moves).session.queue =
      .runDone e generation result :: rest) :
    (¬ ((Scene.opening v host).play moves).session.AwaitsRun e generation →
      ∃ reason s', (∀ host', v.handleNext host' ((Scene.opening v host).play moves).session = s') ∧
        Dismissed reason rest ((Scene.opening v host).play moves).session s') ∧
    (∀ before m after, moves = before ++ m :: after →
      ((Scene.opening v host).play moves).session.ledger.started.length < 2 ^ 64 →
      (e, generation) ∈ ((Scene.opening v host).play (before ++ [m])).session.ledger.started →
      ((Scene.opening v host).play (before ++ [m])).Forgets e after →
      ¬ ((Scene.opening v host).play moves).session.AwaitsRun e generation) ∧
    ∀ failure, result = .error failure →
      ((Scene.opening v host).play moves).session.AwaitsRun e generation →
      (∃ s', (∀ host', v.handleNext host' ((Scene.opening v host).play moves).session = s') ∧
        Failed e failure rest ((Scene.opening v host).play moves).session s') ∧
      ∀ later news (host' : Host) file kind,
        ((Scene.opening v host).play (moves ++ .call .handleNext :: later)).session.record =
          ((Scene.opening v host).play (moves ++ [.call .handleNext])).session.record ++ news →
        ¬ Log.Starts e news →
        host'.file? e = some file → v.extensions.kindOf? file = some kind →
        ∃ run, (v.request host' e false
          ((Scene.opening v host).play (moves ++ .call .handleNext :: later)).session).2 =
            .started run := by
  refine ⟨fun hw => ?_, ?_, ?_⟩
  · exact ⟨_, _, fun host' => handleNext_eq_disregard v host' hq hw, dismissed_disregard hq _⟩
  · rintro before m after rfl hb hr hf
    rw [Scene.play_append_cons _ before m after] at hb ⊢
    have hmid := Nat.lt_of_le_of_lt (length_started_le _ after) hb
    exact (accounted_play v host _ hmid).not_awaitsRun_of_forgets hr hf hb
  · rintro failure rfl hw
    refine ⟨⟨_, fun host' => handleNext_eq_abandon v host' hq hw, failed_abandon hq hw⟩, ?_⟩
    intro later news host' file kind hs hn hf hk
    have hservice : ((Scene.opening v host).play moves).service = v := Scene.service_play _ _
    rw [Scene.play_append_cons, Scene.play_concat] at hs ⊢
    generalize (Scene.opening v host).play moves = c at *
    have hsession : (c.perform (.call .handleNext)).session = c.session.pop.abandon e failure := by
      rw [Scene.session_perform_call, hd, hservice]
      exact handleNext_eq_abandon v c.host hq hw
    have hfailed : Failed e failure rest c.session (c.perform (.call .handleNext)).session :=
      hsession ▸ failed_abandon hq hw
    exact ⟨_, congrArg Prod.snd ((hfailed.ready hs hn).request hf hk)⟩

/-- The first check of a file fails, and the next request at once starts the second one. -/
theorem futile_end_exact_of_crash :
    let v := Service.ofSettings .default
    let host := Host.script "let"
    let moves : List Scene.Move := [.call .activate, .finish ⟨1⟩ (.error .crash)]
    let s := ((Scene.opening v host).play moves).session
    let s' := ((Scene.opening v host).play (moves ++ [.call .handleNext])).session
    (∃ t, (∀ host', v.handleNext host' s = t) ∧ Failed ⟨0⟩ .crash [] s t) ∧
      ∃ run, (v.request host ⟨0⟩ false s').2 = .started run := by
  intro v host moves s s'
  have hq : s.queue = [.runDone ⟨0⟩ ⟨1⟩ (.error .crash)] := rfl
  have h := (futile_end_exact v host moves (by decide +kernel) hq).2.2 .crash rfl
    ⟨_, rfl, by decide +kernel, by decide +kernel⟩
  refine ⟨h.1, h.2 [] [] host .script .js ?_ ?_ (by decide +kernel) (by decide +kernel)⟩
  · simp
  · simp [Log.Starts]

end Session

end Gutter
