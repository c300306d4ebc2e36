import Gutter.Proofs.Session.Frame
import Mathlib.Logic.Relation

/-!
# What a session can do

Each call of the service is taken apart once: a request by its answer, an event by what becomes of
it, and everything else into a chain of deeds. A property that every deed keeps is then kept by
every call.
-/

namespace Gutter

/-! ## Requests -/

namespace Service

/-- The answers to a request, each with the reason for it and the session afterwards. -/
inductive Requested (v : Service) (host : Host) (e : EditorId) (debounce : Bool) (s : Session) :
    Session × Outcome → Prop where
  | gone (hf : host.file? e = none) : Requested v host e debounce s (s, .unsupported)
  | unsupported {file} (hf : host.file? e = some file) (hk : v.extensions.kindOf? file = none) :
      Requested v host e debounce s (s.note (.unsupported e file), .unsupported)
  | busy {file kind entry} (hf : host.file? e = some file)
      (hk : v.extensions.kindOf? file = some kind)
      (he : Session.entry? (s.ensure e file) e = some entry) (hr : entry.isRunning = true) :
      Requested v host e debounce s ((s.ensure e file).note (.busy e), .busy)
  | debounced {file kind entry} (hf : host.file? e = some file)
      (hk : v.extensions.kindOf? file = some kind)
      (he : Session.entry? (s.ensure e file) e = some entry) (hr : entry.isRunning = false)
      (hd : debounce = true) :
      Requested v host e debounce s ((s.ensure e file).setTimer v.settings e, .debounced)
  | cached {file kind entry} (hf : host.file? e = some file)
      (hk : v.extensions.kindOf? file = some kind)
      (he : Session.entry? (s.ensure e file) e = some entry) (hr : entry.isRunning = false)
      (hd : debounce = false) (hn : entry.needsCheck = false) :
      Requested v host e debounce s
        (((s.ensure e file).note (.cached e)).render v.settings host e, .cached)
  | started {file kind entry} (hf : host.file? e = some file)
      (hk : v.extensions.kindOf? file = some kind)
      (he : Session.entry? (s.ensure e file) e = some entry) (hr : entry.isRunning = false)
      (hd : debounce = false) (hn : entry.needsCheck = true) :
      Requested v host e debounce s
        ((s.ensure e file).start v.settings ⟨e, file, kind⟩ ((host.text? e).getD ""),
          .started s.clock.next)

/-- Every request is answered in one of these ways. -/
theorem requested (v : Service) (host : Host) (e : EditorId) (debounce : Bool) (s : Session) :
    Requested v host e debounce s (v.request host e debounce s) := by
  unfold request
  cases hf : host.file? e with
  | none => exact .gone hf
  | some file =>
      cases hk : v.extensions.kindOf? file with
      | none => simpa only [hk] using .unsupported hf hk
      | some kind =>
          have he := Session.entry?_ensure_self e file s
          simp only [hk, Session.request, he, Option.getD_some]
          generalize (s.entry? e).getD (.new file) = entry at he
          cases hr : entry.isRunning with
          | true => simpa [hr] using .busy hf hk he hr
          | false =>
              cases debounce with
              | true => simpa [hr] using .debounced hf hk he hr rfl
              | false =>
                  cases hn : entry.needsCheck with
                  | false => simpa [hr, hn] using .cached hf hk he hr rfl hn
                  | true => simpa [hr, hn] using .started hf hk he hr rfl hn

/-- An editor that was never seen is checked at once if the linter handles its document. -/
theorem request_of_new {v : Service} {host : Host} {e : EditorId} {s : Session} {file : Path}
    (hf : host.file? e = some file) (he : s.entry? e = none) :
    (v.request host e false s).1 = match v.extensions.kindOf? file with
      | none => s.note (.unsupported e file)
      | some kind =>
        (s.ensure e file).start v.settings ⟨e, file, kind⟩ ((host.text? e).getD "") := by
  have hnew : Session.entry? (s.ensure e file) e = some (.new file) := by
    rw [Session.entry?_ensure_self, he, Option.getD_none]
  have h := requested v host e false s
  generalize v.request host e false s = answer at h ⊢
  cases h with
  | gone hf' => rw [hf] at hf'; cases hf'
  | unsupported hf' hk =>
      obtain rfl := Option.some.inj (hf.symm.trans hf')
      rw [hk]
  | busy hf' hk he' hr =>
      obtain rfl := Option.some.inj (hf.symm.trans hf')
      obtain rfl := Option.some.inj (hnew.symm.trans he')
      cases hr
  | debounced _ _ _ _ hd => cases hd
  | cached hf' hk he' hr hd hn =>
      obtain rfl := Option.some.inj (hf.symm.trans hf')
      obtain rfl := Option.some.inj (hnew.symm.trans he')
      cases hn
  | started hf' hk =>
      obtain rfl := Option.some.inj (hf.symm.trans hf')
      rw [hk]

/-! ## Events -/

end Service

namespace Session

def pop (s : Session) : Session := { s with queue := s.queue.tail }

def takeTimer (e : EditorId) (token : TimerToken) (s : Session) : Session :=
  (s.disarm [token]).edit e (.setTimer none)

def store (e : EditorId) (generation : Generation) (findings : Findings) (s : Session) : Session :=
  ((s.note (.runDone e generation findings.issues.length)).edit e (.commit findings)).count
    .countCompletion

def abandon (e : EditorId) (failure : Failure) (s : Session) : Session :=
  ((s.edit e .fail).count .countFailure).note (.runFailed (.failed e failure))

def disregard (reason : CompletionError) (s : Session) : Session :=
  (s.count .countStale).note (.completionStale reason)

def refocus (settings : Settings) (host : Host) (e : EditorId) (s : Session) : Session :=
  (((s.note (.focus e)).draw [.withdrawAll]).showStatus settings host e).showIssues host e

theorem alike_refocus (settings : Settings) (host : Host) (e : EditorId) (s : Session) :
    s.Alike (s.refocus settings host e) :=
  (((alike_note rfl s).trans (alike_draw _ _)).trans (alike_showStatus settings host e _)).trans
    (alike_showIssues host e _)

theorem entry?_store {s : Session} {e : EditorId} {entry : Entry} (he : s.entry? e = some entry)
    (generation : Generation) (findings : Findings) :
    Session.entry? (s.store e generation findings) e = some (entry.commit findings) := by
  simp [store, he]

/-- Drawing what has been stored keeps the mark that the text has changed. -/
theorem any_needsCheck_render_store {s : Session} {e : EditorId} {entry : Entry}
    (he : s.entry? e = some entry) (settings : Settings) (host : Host) (generation : Generation)
    (findings : Findings) :
    (Session.entry? ((s.store e generation findings).render settings host e) e).any
        Entry.needsCheck =
      entry.needsCheck := by
  obtain ⟨markers, he'⟩ :=
    (alike_render settings host e _).exists_entry (entry?_store he generation findings)
  rw [he', Option.any_some]
  rfl

/-- An editor waits for a run. -/
def AwaitsRun (s : Session) (e : EditorId) (generation : Generation) : Prop :=
  ∃ entry, s.entry? e = some entry ∧ entry.isRunning = true ∧ entry.generation = generation

end Session

namespace Service

/-- What becomes of the findings of a run that the editor waits for. -/
theorem handle_runDone_ok {s : Session} {e : EditorId} {entry : Entry}
    (he : s.entry? e = some entry) (hr : entry.isRunning = true) (v : Service) (host : Host)
    (records : List Record) :
    v.handle host (.runDone e entry.generation (.ok records)) s =
      let t := (s.store e entry.generation (.ofRecords records v.settings.severityLevel)).render
        v.settings host e
      if entry.needsCheck then (v.request host e true (t.note (.trailingCheck e))).1 else t := by
  have hn := Session.any_needsCheck_render_store he v.settings host entry.generation
    (.ofRecords records v.settings.severityLevel)
  simp only [← hn, handle, Session.complete, he, hr, Bool.not_true, Bool.false_or, ne_eq,
    not_true_eq_false, decide_false, Bool.false_eq_true, ite_false]
  rfl

/-- What becomes of a run that the editor does not wait for. -/
theorem handle_runDone_stale {s : Session} {e : EditorId} {entry : Entry} {generation : Generation}
    (he : s.entry? e = some entry)
    (hg : ¬ (entry.isRunning = true ∧ entry.generation = generation)) (v : Service) (host : Host)
    (result : Except Failure (List Record)) :
    v.handle host (.runDone e generation result) s =
      s.disregard (.stale e generation entry.generation) := by
  have hg' : (!entry.isRunning || decide (entry.generation ≠ generation)) = true := by
    rw [Bool.or_eq_true, decide_eq_true_eq, Bool.not_eq_true', ← Bool.not_eq_true]
    exact not_and_or.mp hg
  simp only [handle, Session.complete, he, hg', ite_true]
  rfl

theorem handleNext_of_queue {s : Session} {event : Event} {rest : List Event}
    (hq : s.queue = event :: rest) (v : Service) (host : Host) :
    v.handleNext host s = v.handle host event s.pop := by
  simp [handleNext, hq, Session.pop]

/-- What becomes of the oldest event. -/
inductive Handled (v : Service) (host : Host) (s : Session) : Session → Prop where
  | idle (hq : s.queue = []) : Handled v host s s
  | orphaned {e token rest} (hq : s.queue = .timerFired e token :: rest)
      (he : s.entry? e = none) : Handled v host s (s.pop.note (.timerOrphaned e))
  | superseded {e token rest entry} (hq : s.queue = .timerFired e token :: rest)
      (he : s.entry? e = some entry) (ht : entry.timer ≠ some token) :
      Handled v host s (s.pop.note (.timerSuperseded e token))
  | unseen {e token rest entry} (hq : s.queue = .timerFired e token :: rest)
      (he : s.entry? e = some entry) (ht : entry.timer = some token) (hv : e ∉ host.visible) :
      Handled v host s (s.pop.takeTimer e token)
  | heard {e token rest entry} (hq : s.queue = .timerFired e token :: rest)
      (he : s.entry? e = some entry) (ht : entry.timer = some token) (hv : e ∈ host.visible) :
      Handled v host s (v.request host e false (s.pop.takeTimer e token)).1
  | evicted {e generation result rest} (hq : s.queue = .runDone e generation result :: rest)
      (he : s.entry? e = none) : Handled v host s (s.pop.disregard (.evicted e))
  | stale {e generation result rest entry} (hq : s.queue = .runDone e generation result :: rest)
      (he : s.entry? e = some entry)
      (hg : ¬ (entry.isRunning = true ∧ entry.generation = generation)) :
      Handled v host s (s.pop.disregard (.stale e generation entry.generation))
  | failed {e generation failure rest entry}
      (hq : s.queue = .runDone e generation (.error failure) :: rest)
      (he : s.entry? e = some entry) (hr : entry.isRunning = true)
      (hg : entry.generation = generation) : Handled v host s (s.pop.abandon e failure)
  | stored {e generation records rest entry}
      (hq : s.queue = .runDone e generation (.ok records) :: rest)
      (he : s.entry? e = some entry) (hr : entry.isRunning = true)
      (hg : entry.generation = generation) (hn : entry.needsCheck = false) :
      Handled v host s
        ((s.pop.store e generation (.ofRecords records v.settings.severityLevel)).render
          v.settings host e)
  | trailed {e generation records rest entry}
      (hq : s.queue = .runDone e generation (.ok records) :: rest)
      (he : s.entry? e = some entry) (hr : entry.isRunning = true)
      (hg : entry.generation = generation) (hn : entry.needsCheck = true) :
      Handled v host s (v.request host e true
        (((s.pop.store e generation (.ofRecords records v.settings.severityLevel)).render
          v.settings host e).note (.trailingCheck e))).1

/-- The oldest event, if there is one, has one of these outcomes. -/
theorem handled (v : Service) (host : Host) (s : Session) :
    Handled v host s (v.handleNext host s) := by
  cases hq : s.queue with
  | nil => simpa only [handleNext, hq] using .idle hq
  | cons event rest =>
      rw [handleNext_of_queue hq]
      cases event with
      | timerFired e token =>
          simp only [handle, Session.timerFired, show s.pop.entry? e = s.entry? e from rfl]
          cases he : s.entry? e with
          | none => exact .orphaned hq he
          | some entry =>
              by_cases ht : entry.timer = some token
              · by_cases hv : e ∈ host.visible
                · simpa [ht, hv] using .heard hq he ht hv
                · simpa [ht, hv] using .unseen hq he ht hv
              · simpa [ht] using .superseded hq he ht
      | runDone e generation result =>
          cases he : s.entry? e with
          | none =>
              simp only [handle, Session.complete, show s.pop.entry? e = none from he]
              exact .evicted hq he
          | some entry =>
              have he' : s.pop.entry? e = some entry := he
              by_cases hg : entry.isRunning = true ∧ entry.generation = generation
              · obtain ⟨hr, rfl⟩ := hg
                cases result with
                | error failure =>
                    simpa [handle, Session.complete, he', hr] using .failed hq he hr rfl
                | ok records =>
                    rw [handle_runDone_ok he' hr]
                    cases hc : entry.needsCheck with
                    | false => exact .stored hq he hr rfl hc
                    | true => exact .trailed hq he hr rfl hc
              · rw [handle_runDone_stale he' hg]
                exact .stale hq he hg

end Service

/-! ## Deeds -/

/-- What the service can do on its own while the host answers as `host` does, apart from following
the focus, forgetting editors and handling events. -/
inductive Deed (v : Service) (host : Host) : Session → Session → Prop where
  | note {s event} (h : event.isAside = true) (hd : event.drawn? = none := by rfl) :
      Deed v host s (s.note event)
  | soil {s} (e) : Deed v host s (s.edit e .soil)
  | meet {s e file kind} (hf : host.file? e = some file)
      (hk : v.extensions.kindOf? file = some kind) : Deed v host s (s.ensure e file)
  | setTimer {s e entry} (he : s.entry? e = some entry) (hr : entry.isRunning = false) :
      Deed v host s (s.setTimer v.settings e)
  | start {s e file kind entry} (hf : host.file? e = some file)
      (hk : v.extensions.kindOf? file = some kind) (he : s.entry? e = some entry)
      (hr : entry.isRunning = false) (hn : entry.needsCheck = true) :
      Deed v host s (s.start v.settings ⟨e, file, kind⟩ ((host.text? e).getD ""))
  | render {s} (e) : Deed v host s (s.render v.settings host e)
  | showStatus {s} (e) : Deed v host s (s.showStatus v.settings host e)
  | clearStatus {s} (h : host.active = none) : Deed v host s (s.draw [.clearStatus])
  | tally {s} (n) : Deed v host s (s.count (.countEvicted n))

/-- A deed, as far as checks are concerned. -/
inductive Deed.OnChecks (v : Service) (host : Host) (s : Session) : Session → Prop where
  | alike {s'} (h : s.Alike s') : OnChecks v host s s'
  | soil (e) : OnChecks v host s (s.edit e .soil)
  | meet {e file kind} (hf : host.file? e = some file)
      (hk : v.extensions.kindOf? file = some kind) : OnChecks v host s (s.ensure e file)
  | setTimer {e entry} (he : s.entry? e = some entry) (hr : entry.isRunning = false) :
      OnChecks v host s (s.setTimer v.settings e)
  | start {e file kind entry} (hf : host.file? e = some file)
      (hk : v.extensions.kindOf? file = some kind) (he : s.entry? e = some entry)
      (hr : entry.isRunning = false) (hn : entry.needsCheck = true) :
      OnChecks v host s (s.start v.settings ⟨e, file, kind⟩ ((host.text? e).getD ""))

/-- The other deeds have no influence on when checks run. -/
theorem Deed.onChecks {v : Service} {host : Host} {s s' : Session} (h : Deed v host s s') :
    OnChecks v host s s' := by
  cases h with
  | note hn => exact .alike (Session.alike_note hn s)
  | soil e => exact .soil e
  | meet hf hk => exact .meet hf hk
  | setTimer he hr => exact .setTimer he hr
  | start hf hk he hr hn => exact .start hf hk he hr hn
  | render e => exact .alike (Session.alike_render v.settings host e s)
  | showStatus e => exact .alike (Session.alike_showStatus v.settings host e s)
  | clearStatus => exact .alike (Session.alike_draw _ s)
  | tally n => exact .alike (Session.alike_countEvicted n s)

abbrev Chain (v : Service) (host : Host) : Session → Session → Prop :=
  Relation.ReflTransGen (Deed v host)

namespace Service

open Relation

variable (v : Service) (host : Host)

theorem request_chain (e : EditorId) (debounce : Bool) (s : Session) :
    Chain v host s (v.request host e debounce s).1 := by
  have h := requested v host e debounce s
  generalize v.request host e debounce s = answer at h ⊢
  cases h with
  | gone => exact .refl
  | unsupported => exact .single (.note rfl)
  | busy hf hk => exact (ReflTransGen.single (.meet hf hk)).tail (.note rfl)
  | debounced hf hk he hr => exact (ReflTransGen.single (.meet hf hk)).tail (.setTimer he hr)
  | cached hf hk =>
      exact ((ReflTransGen.single (.meet hf hk)).tail (.note rfl)).tail (.render e)
  | started hf hk he hr _ hn =>
      exact (ReflTransGen.single (.meet hf hk)).tail (.start hf hk he hr hn)

theorem foldl_chain {α : Type} {f : Session → α → Session}
    (h : ∀ s a, Chain v host s (f s a)) (xs : List α) (s : Session) :
    Chain v host s (xs.foldl f s) := by
  induction xs generalizing s with
  | nil => exact .refl
  | cons a xs ih => exact (h s a).trans (ih (f s a))

theorem requestAll_chain (editors : List EditorId) (debounce : Bool) (s : Session) :
    Chain v host s (v.requestAll host editors debounce s) :=
  foldl_chain v host (fun s e => request_chain v host e debounce s) editors s

theorem activate_chain (s : Session) : Chain v host s (v.activate host s) :=
  (ReflTransGen.single (.note rfl)).trans (requestAll_chain v host _ _ _)

theorem textChanged_chain (file : Path) (s : Session) :
    Chain v host s (v.textChanged host file s) := by
  unfold textChanged
  split
  · exact .refl
  · have hall := foldl_chain v host
      (fun s e => (ReflTransGen.single (.soil e)).trans (request_chain v host e true _))
      (host.visible.filter (shows host file)) s
    split
    · exact hall.tail (.showStatus _)
    · exact hall

theorem activeChanged_chain (e : EditorId) (s : Session) :
    Chain v host (s.refocus v.settings host e) (v.activeChanged host (some e) s) :=
  requestAll_chain v host _ _ _

theorem selectionChanged_chain (e : EditorId) (s : Session) :
    Chain v host s (v.selectionChanged host e s) := by
  unfold selectionChanged
  split
  · exact .single (.showStatus e)
  · exact .refl

/-! ## Forgetting editors -/

/-- Deeds follow, or some editors are forgotten and what follows changes nothing that matters for
the checks. -/
def ClosesThen (s s' : Session) : Prop :=
  Chain v host s s' ∨
    ∃ keep, Chain v host (s.close keep) s' ∧ (s.close keep).Alike s'

theorem prune_closesThen (s : Session) : ClosesThen v host s (v.prune host s).1 := by
  unfold prune Session.prune
  split
  · refine .inr ⟨_, (ReflTransGen.single (.tally _)).tail (.note rfl), ?_⟩
    exact (Session.alike_countEvicted _ _).trans (Session.alike_note rfl _)
  · exact .inl .refl

theorem documentClosed_closesThen (file : Path) (s : Session) :
    ClosesThen v host s (v.documentClosed host file s) := by
  unfold documentClosed
  split
  · exact .inl .refl
  · split
    · next h =>
      rcases prune_closesThen v host s with hp | ⟨keep, hp, ha⟩
      · exact .inl (hp.tail (.clearStatus h))
      · exact .inr ⟨keep, hp.tail (.clearStatus h), ha.trans (Session.alike_draw _ _)⟩
    · exact prune_closesThen v host s

theorem editorClosed_closesThen (e : EditorId) (s : Session) :
    ClosesThen v host s (editorClosed e s) := by
  unfold editorClosed
  split
  · exact .inl .refl
  · exact .inr ⟨_, .single (.note rfl), Session.alike_note rfl _⟩

end Service

end Gutter
