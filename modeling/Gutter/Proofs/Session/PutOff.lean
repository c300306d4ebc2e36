import Gutter.Proofs.Session.Calls
import Gutter.Proofs.Session.Deal
import Gutter.Proofs.Session.Futile
import Gutter.Proofs.Session.Quiet

/-!
# Checks that are put off

An edit puts the check of its document off until the quiet period is over. The editor then waits for
one timer and takes no notice of any other event. Once that timer is heard the check starts, and
nothing more is to come.
-/

namespace Gutter

namespace Session

variable {s s' : Session} {e x : EditorId} {k : TimerToken}

/-! ## Events that go unnoticed -/

theorem mem_rung_iff : (e, k) ∈ s.rung ↔ .timerFired e k ∈ s.queue := by
  rw [rung, List.mem_filterMap]
  constructor
  · rintro ⟨event, hmem, ht⟩
    cases event with
    | timerFired x k' =>
        obtain ⟨rfl, rfl⟩ := Prod.mk.inj (Option.some.inj ht)
        exact hmem
    | runDone => cases ht
  · exact fun hmem => ⟨_, hmem, rfl⟩

theorem queue_handleNext (v : Service) (host : Host) (s : Session) :
    (v.handleNext host s).queue = s.queue.tail := by
  cases hq : s.queue with
  | nil => simp [Service.handleNext, hq]
  | cons event rest =>
      obtain ⟨d, -, hd⟩ := exists_dealt v host event (s.entry? event.editor)
      rw [Service.handleNext_of_queue hq, (hd s.pop rfl).queue, pop, hq]

/-- An editor takes no notice of an event that it does not wait for. -/
theorem unnoticed_handleNext (v : Service) (host : Host)
    (ht : ∀ k rest, s.queue = .timerFired e k :: rest → s.timer? e ≠ some k)
    (hr : ∀ generation result rest, s.queue = .runDone e generation result :: rest →
      ¬ s.AwaitsRun e generation) : Unnoticed e s (v.handleNext host s) := by
  have htimer : ∀ {x k rest entry}, s.queue = .timerFired x k :: rest →
      s.entry? x = some entry → entry.timer = some k → e ≠ x := by
    rintro x k rest entry hq he hk rfl
    exact ht k rest hq ((timer?_of_entry he).trans hk)
  have hrun : ∀ {x generation result rest entry},
      s.queue = .runDone x generation result :: rest → s.entry? x = some entry →
      entry.isRunning = true → entry.generation = generation → e ≠ x := by
    rintro x generation result rest entry hq he hrun hg rfl
    exact hr generation result rest hq ⟨entry, he, hrun, hg⟩
  have h := Service.handled v host s
  generalize v.handleNext host s = s' at h ⊢
  cases h with
  | idle => exact unnoticed_of_entry rfl rfl
  | orphaned | superseded => exact (unnoticed_pop s).trans (alike_note rfl _).apart.unnoticed
  | unseen hq he hk => exact (apart_takeTimer (htimer hq he hk) hq).unnoticed
  | heard hq he hk =>
      have hne := htimer hq he hk
      exact ((apart_takeTimer hne hq).trans (apart_request hne v host false _)).unnoticed
  | evicted | stale => exact unnoticed_disregard _ s
  | failed hq he hr hg => exact (apart_abandon (hrun hq he hr hg) hq).unnoticed
  | @stored x _ _ _ _ hq he hr hg =>
      exact ((apart_store (hrun hq he hr hg) hq _).trans
        (alike_render v.settings host x _).apart).unnoticed
  | @trailed x _ _ _ _ hq he hr hg =>
      have hne := hrun hq he hr hg
      exact (((apart_store hne hq _).trans (alike_render v.settings host x _).apart).trans
        ((alike_note rfl _).apart.trans (apart_request hne v host true _))).unnoticed

/-! ## A check that is put off -/

def Waits (e : EditorId) (k : TimerToken) (s : Session) : Prop :=
  ∃ entry, s.entry? e = some entry ∧ entry.isRunning = false ∧ entry.needsCheck = true ∧
    entry.timer = some k

theorem Waits.timer? (h : s.Waits e k) : s.timer? e = some k := by
  obtain ⟨entry, he, -, -, ht⟩ := h
  exact (timer?_of_entry he).trans ht

theorem Waits.unnoticed (h : s.Waits e k) (hu : Unnoticed e s s') : s'.Waits e k := by
  obtain ⟨entry, he, hr, hn, ht⟩ := h
  obtain ⟨markers, he'⟩ := exists_entry_of_bare hu.bare he
  exact ⟨_, he', hr, hn, ht⟩

theorem Waits.not_awaitsRun (h : s.Waits e k) (generation : Generation) :
    ¬ s.AwaitsRun e generation := by
  obtain ⟨entry, he, hr, -⟩ := h
  rintro ⟨other, ho, hro, -⟩
  obtain rfl := Option.some.inj (he.symm.trans ho)
  rw [hr] at hro
  cases hro

/-- Nothing is to come for an editor on its own: it waits for no timer, and if a check is under way
no other one follows. -/
def Spent (e : EditorId) (s : Session) : Prop :=
  ∀ entry, s.entry? e = some entry →
    entry.timer = none ∧ (entry.isRunning = true → entry.needsCheck = false)

theorem Spent.timer? (h : s.Spent e) : s.timer? e = none := by
  rw [Session.timer?]
  cases he : s.entry? e with
  | none => rfl
  | some entry => exact (h entry he).1

theorem spent_of_entry {entry : Entry} (he : s.entry? e = some entry) (ht : entry.timer = none)
    (hn : entry.isRunning = true → entry.needsCheck = false) : s.Spent e :=
  forall_entry_of_some he ⟨ht, hn⟩

theorem Spent.unnoticed (h : s.Spent e) (hu : Unnoticed e s s') : s'.Spent e :=
  hu.forall_entry (fun _ _ => id) h

/-! ## The timer is heard -/

theorem Waits.takeTimer (h : s.Waits e k) :
    (s.pop.takeTimer e k).Ready e ∧ (s.pop.takeTimer e k).Spent e := by
  obtain ⟨entry, he, hr, hn, -⟩ := h
  have htaken : Session.entry? (s.pop.takeTimer e k) e = some (entry.setTimer none) :=
    (entry?_edit_self e _ _).trans (congrArg _ he)
  refine ⟨ready_of_entry htaken hr hn, spent_of_entry htaken rfl fun hr' => ?_⟩
  simp [Entry.setTimer, hr] at hr'

theorem spent_start {entry : Entry} (he : s.entry? e = some entry) (settings : Settings)
    (file : Path) (kind : DocKind) (text : String) :
    (s.start settings ⟨e, file, kind⟩ text).Spent e := by
  have hstart : Session.entry? (s.start settings ⟨e, file, kind⟩ text) e =
      some (entry.start s.clock.next) := by
    rw [entry?_start, if_pos rfl, he]
    rfl
  exact spent_of_entry hstart rfl fun _ => rfl

/-- Whatever the host answers, nothing more is to come once the timer has been heard. -/
theorem Spent.request (h : s.Spent e) (hr : s.Ready e) (v : Service) (host : Host) :
    (v.request host e false s).1.Spent e := by
  have hreq := Service.requested v host e false s
  generalize v.request host e false s = answer at hreq ⊢
  cases hreq with
  | gone => exact h
  | unsupported => exact h.unnoticed (alike_note rfl s).apart.unnoticed
  | busy _ _ he hr' => simp [(hr.ensure _ _ he).1] at hr'
  | debounced _ _ _ _ hd => cases hd
  | cached _ _ he _ _ hn => simp [(hr.ensure _ _ he).2] at hn
  | started _ _ he => exact spent_start he v.settings _ _ _

/-- The event of the timer that the editor waits for ends the waiting. -/
theorem Waits.handleNext (h : s.Waits e k) {rest : List Event}
    (hq : s.queue = .timerFired e k :: rest) (v : Service) (host : Host) :
    v.handleNext host s =
      if e ∈ host.visible then (v.request host e false (s.pop.takeTimer e k)).1
      else s.pop.takeTimer e k := by
  obtain ⟨entry, he, -, -, ht⟩ := h
  have he' : s.pop.entry? e = some entry := he
  simp only [Service.handleNext_of_queue hq, Service.handle, timerFired, he', ht, ite_true]
  rfl

theorem Waits.spent_handleNext (h : s.Waits e k) {rest : List Event}
    (hq : s.queue = .timerFired e k :: rest) (v : Service) (host : Host) :
    (v.handleNext host s).Spent e := by
  obtain ⟨hready, hspent⟩ := h.takeTimer
  rw [h.handleNext hq]
  split
  · exact hspent.request hready v host
  · exact hspent

/-- The check starts on the text that the document has when the timer is heard. -/
theorem Waits.callsOf_handleNext (h : s.Waits e k) (ha : s.Asked) {rest : List Event}
    (hq : s.queue = .timerFired e k :: rest) {v : Service} {host : Host} {file : Path}
    {kind : DocKind} (hv : e ∈ host.visible) (hf : host.file? e = some file)
    (hk : v.extensions.kindOf? file = some kind) :
    (v.handleNext host s).callsOf e =
      s.callsOf e ++ [⟨(host.text? e).getD "", kind, v.settings.locale⟩] := by
  have hcalls : ((s.pop.takeTimer e k).ensure e file).calls = s.calls := rfl
  have hasked : ((s.pop.takeTimer e k).ensure e file).Asked := ha
  rw [h.handleNext hq, if_pos hv, h.takeTimer.1.request hf hk, callsOf, hasked.calls_start,
    hcalls, List.filter_append, List.map_append]
  simp [callsOf]

/-! ## Nothing is to come -/

/-- The end of a run that an editor waits for is stored, and no other check follows if none is
needed. -/
theorem handleNext_eq_render {entry : Entry} {records : List Record} {rest : List Event}
    (hq : s.queue = .runDone e entry.generation (.ok records) :: rest)
    (he : s.entry? e = some entry) (hr : entry.isRunning = true)
    (hn : entry.needsCheck = false) (v : Service) (host : Host) :
    v.handleNext host s =
      (s.pop.store e entry.generation (.ofRecords records v.settings.severityLevel)).render
        v.settings host e := by
  have he' : s.pop.entry? e = some entry := he
  simp only [Service.handleNext_of_queue hq, Service.handle_runDone_ok he' hr, hn,
    Bool.false_eq_true, ite_false]

/-- If nothing is to come for an editor, no event changes that or starts a run for it. -/
theorem Spent.handleNext (h : s.Spent e) (v : Service) (host : Host) :
    (v.handleNext host s).Spent e ∧
      (v.handleNext host s).ledger.started.filter (·.1 = e) =
        s.ledger.started.filter (·.1 = e) := by
  by_cases hw : ∃ generation result rest, s.queue = .runDone e generation result :: rest ∧
      s.AwaitsRun e generation
  · obtain ⟨generation, result, rest, hq, hw⟩ := hw
    have hw' := hw
    obtain ⟨entry, he, hr, rfl⟩ := hw'
    obtain ⟨ht, hn⟩ := h entry he
    cases result with
    | error failure =>
        rw [handleNext_eq_abandon v host hq hw, (takes_abandon hq hw).started]
        have hfail : Session.entry? (s.pop.abandon e failure) e = some entry.fail :=
          (entry?_edit_self e .fail s.pop).trans (congrArg _ he)
        exact ⟨spent_of_entry hfail ht (nomatch ·), rfl⟩
    | ok records =>
        rw [handleNext_eq_render hq he hr (hn hr), (alike_render _ _ _ _).ledger,
          (takes_store hq hw _).started]
        obtain ⟨-, markers, -, hstored⟩ := exists_stored he entry.generation
          (.ofRecords records v.settings.severityLevel) v.settings host
        exact ⟨spent_of_entry hstored ht (nomatch ·), rfl⟩
  · have hu : Unnoticed e s (v.handleNext host s) := unnoticed_handleNext v host
      (fun k rest _ => by simp [h.timer?])
      fun generation result rest hq hr => hw ⟨generation, result, rest, hq, hr⟩
    exact ⟨h.unnoticed hu, hu.started⟩

/-! ## Draining the queue -/

theorem Asked.handleNext (h : s.Asked) (v : Service) (host : Host) :
    (v.handleNext host s).Asked ∧ s.calls <+: (v.handleNext host s).calls :=
  (calls_kept v (fun _ => True) s.calls).handleNext trivial ⟨h, List.prefix_refl _⟩

/-- If nothing is to come for an editor, nothing comes however many events are handled. -/
theorem Spent.foldl_handleNext (h : s.Spent e) (ha : s.Asked) (v : Service) (host : Host)
    (events : List Event) :
    (events.foldl (fun s _ => v.handleNext host s) s).Spent e ∧
      (events.foldl (fun s _ => v.handleNext host s) s).callsOf e = s.callsOf e := by
  induction events generalizing s with
  | nil => exact ⟨h, rfl⟩
  | cons event events ih =>
      obtain ⟨ha', hp⟩ := ha.handleNext v host
      obtain ⟨h', hstarted⟩ := h.handleNext v host
      obtain ⟨hend, hcalls⟩ := ih h' ha'
      exact ⟨hend, hcalls.trans (callsOf_eq ha ha' hp hstarted)⟩

theorem Waits.unnoticed_handleNext (h : s.Waits e k)
    (hq : ∀ rest, s.queue ≠ .timerFired e k :: rest) (v : Service) (host : Host) :
    Unnoticed e s (v.handleNext host s) := by
  refine Session.unnoticed_handleNext v host (fun k' rest hq' hk => ?_)
    fun generation _ _ _ => h.not_awaitsRun generation
  obtain rfl := Option.some.inj (h.timer?.symm.trans hk)
  exact hq rest hq'

/-- While the queue is drained in which the event of the timer is, the check starts, once. -/
theorem Waits.drain (h : s.Waits e k) (ha : s.Asked) (hmem : (e, k) ∈ s.rung) {v : Service}
    {host : Host} {file : Path} {kind : DocKind} (hv : e ∈ host.visible)
    (hf : host.file? e = some file) (hk : v.extensions.kindOf? file = some kind) :
    (v.drain host s).1.Spent e ∧ (v.drain host s).1.callsOf e =
      s.callsOf e ++ [⟨(host.text? e).getD "", kind, v.settings.locale⟩] := by
  unfold Service.drain
  generalize hevents : s.queue = events
  induction events generalizing s with
  | nil => simp [rung, hevents] at hmem
  | cons event events ih =>
      obtain ⟨ha', hp⟩ := ha.handleNext v host
      rw [List.foldl_cons]
      by_cases hevent : event = .timerFired e k
      · -- what follows in the queue finds nothing more to do for the editor
        subst hevent
        obtain ⟨hend, hcalls⟩ :=
          (h.spent_handleNext hevents v host).foldl_handleNext ha' v host events
        exact ⟨hend, hcalls.trans (h.callsOf_handleNext ha hevents hv hf hk)⟩
      · -- the editor takes no notice, and still waits for the same timer
        have hu := h.unnoticed_handleNext
          (fun rest hq => hevent (List.cons.inj (hevents.symm.trans hq)).1) v host
        have hqueue : (v.handleNext host s).queue = events := by
          rw [queue_handleNext, hevents, List.tail_cons]
        have hleft : (e, k) ∈ (v.handleNext host s).rung := by
          rw [mem_rung_iff, hevents] at hmem
          rw [mem_rung_iff, hqueue]
          exact (List.mem_cons.mp hmem).resolve_left (Ne.symm hevent)
        rw [← callsOf_eq ha ha' hp hu.started]
        exact ih (h.unnoticed hu) ha' hleft hqueue

/-! ## An edit -/

def Halted (e : EditorId) (s : Session) : Prop :=
  ∀ entry, s.entry? e = some entry → entry.isRunning = false

theorem Waits.halted (h : s.Waits e k) : s.Halted e := by
  obtain ⟨entry, he, hr, -⟩ := h
  exact forall_entry_of_some he hr

theorem Halted.unnoticed (h : s.Halted e) (hu : Unnoticed e s s') : s'.Halted e :=
  hu.forall_entry (fun _ _ => id) h

theorem now_of_chain {v : Service} {host : Host} (h : Chain v host s s') : s'.now = s.now := by
  induction h with
  | refl => rfl
  | tail _ hd ih =>
      rw [← ih]
      cases hd.onChecks with
      | alike ha => exact congrArg Work.now ha.work
      | soil | meet | setTimer | start => rfl

theorem Halted.ensure (h : s.Halted e) (file : Path) : Session.Halted e (s.ensure e file) :=
  forall_entry_ensure rfl h

/-- A request that may be put off sets the timer of an editor that is not running. -/
theorem Halted.request (h : s.Halted e) {v : Service} {host : Host} {file : Path} {kind : DocKind}
    (hf : host.file? e = some file) (hk : v.extensions.kindOf? file = some kind) :
    v.request host e true s = ((s.ensure e file).setTimer v.settings e, .debounced) := by
  have hreq := Service.requested v host e true s
  generalize v.request host e true s = answer at hreq ⊢
  cases hreq with
  | gone hf' => simp [hf] at hf'
  | unsupported hf' hk' =>
      obtain rfl := Option.some.inj (hf.symm.trans hf')
      simp [hk] at hk'
  | busy _ _ he hr => simp [h.ensure _ _ he] at hr
  | debounced hf' =>
      obtain rfl := Option.some.inj (hf.symm.trans hf')
      rfl
  | cached _ _ _ _ hd | started _ _ _ _ hd => cases hd

def touch (v : Service) (host : Host) (s : Session) (x : EditorId) : Session :=
  (v.request host x true (s.edit x .soil)).1

theorem touch_chain (v : Service) (host : Host) (s : Session) (x : EditorId) :
    Chain v host s (touch v host s x) :=
  (Relation.ReflTransGen.single (.soil x)).trans (Service.request_chain v host x true _)

theorem apart_touch (h : e ≠ x) (v : Service) (host : Host) (s : Session) :
    Apart e s (touch v host s x) :=
  (apart_edit h .soil s).trans (apart_request h v host true _)

def PutOff (e : EditorId) (due : Nat) (s : Session) : Prop :=
  ∃ k, s.Waits e k ∧ s.RingsAt (e, k) due

theorem putOff_touch (hs : s.Timed) (h : s.Halted e) {v : Service} {host : Host} {file : Path}
    {kind : DocKind} (hf : host.file? e = some file)
    (hk : v.extensions.kindOf? file = some kind) :
    (touch v host s e).PutOff e (s.now + v.settings.debounceMs.toNat) := by
  have hsoil : Session.Halted e (s.edit e .soil) := by
    intro entry he
    rw [entry?_edit_self] at he
    obtain ⟨old, hold, rfl⟩ := Option.map_eq_some_iff.mp he
    exact h old hold
  have htimed : Timed ((s.edit e .soil).ensure e file) :=
    (hs.drops (drops_edit (f := .soil) (fun _ => rfl) e s)).drops (drops_ensure e file _)
  rw [touch, hsoil.request hf hk]
  obtain ⟨entry, he⟩ :
      ∃ entry, Session.entry? ((s.edit e .soil).ensure e file) e = some entry :=
    ⟨_, entry?_ensure_self e file _⟩
  have hn : entry.needsCheck = true := needsCheck_of_soil he
  have hr : entry.isRunning = false := hsoil.ensure file entry he
  refine ⟨s.nextTimer, ⟨entry.setTimer (some s.nextTimer), ?_, hr, hn, rfl⟩,
    ringsAt_setTimer htimed v.settings e⟩
  rw [entry?_setTimer, if_pos rfl, he]
  rfl

theorem PutOff.touch {due : Nat} (h : s.PutOff e due) (hs : s.Timed) (hx : e ≠ x) {v : Service}
    {host : Host} (hb : (touch v host s x).timersSet.length < 2 ^ 64) :
    (touch v host s x).PutOff e due := by
  obtain ⟨k, hw, hr⟩ := h
  refine ⟨k, hw.unnoticed (apart_touch hx v host s).unnoticed, ?_⟩
  exact ((ringsAt_kept v (fun _ => True) (e, k) due).chain trivial (touch_chain v host s x)
    (fun _ => ⟨hs, hr⟩) hb).2

/-- Whatever stands before and after it, and however often it is listed: once an editor has been
touched its check is put off. -/
theorem putOff_foldl {v : Service} {host : Host} {file : Path} {kind : DocKind}
    (hf : host.file? e = some file) (hk : v.extensions.kindOf? file = some kind)
    {editors : List EditorId} (hs : s.Timed)
    (hb : (editors.foldl (touch v host) s).timersSet.length < 2 ^ 64)
    (h : s.PutOff e (s.now + v.settings.debounceMs.toNat) ∨ e ∈ editors ∧ s.Halted e) :
    (editors.foldl (touch v host) s).PutOff e (s.now + v.settings.debounceMs.toNat) := by
  induction editors generalizing s with
  | nil => exact h.resolve_right (by simp)
  | cons x editors ih =>
      rw [List.foldl_cons] at hb ⊢
      have hchain := touch_chain v host s x
      have hprefix := (prefix_timersSet_kept v (fun _ => True) (touch v host s x).timersSet).chain
        trivial (Service.foldl_chain v host (touch_chain v host) editors _) (List.prefix_refl _)
      have hb' := Nat.lt_of_le_of_lt hprefix.length_le hb
      have hs' : (touch v host s x).Timed :=
        ((timed_kept v fun _ => True).chain trivial hchain (fun _ => hs) hb')
      rw [← now_of_chain hchain] at h ⊢
      refine ih hs' hb ?_
      by_cases hx : e = x
      · subst hx
        have hhalted : s.Halted e := h.elim (fun ⟨_, hw, _⟩ => hw.halted) And.right
        rw [now_of_chain hchain]
        exact .inl (putOff_touch hs hhalted hf hk)
      · refine h.imp (·.touch hs hx hb') fun ⟨hmem, hhalted⟩ => ⟨?_, ?_⟩
        · exact (List.mem_cons.mp hmem).resolve_left hx
        · exact hhalted.unnoticed (apart_touch hx v host s).unnoticed

/-- A request that may be put off starts no run. -/
theorem started_request_debounced (v : Service) (host : Host) (e : EditorId) (s : Session) :
    (v.request host e true s).1.ledger.started = s.ledger.started := by
  have h := Service.requested v host e true s
  generalize v.request host e true s = answer at h ⊢
  cases h with
  | gone => rfl
  | unsupported => exact congrArg Ledger.started (alike_note rfl s).ledger
  | busy => exact congrArg Ledger.started (alike_note rfl _).ledger
  | @debounced file =>
      have hsame : SameRuns [] _ _ := sameRuns_setTimer v.settings e (s.ensure e file)
      exact hsame.started
  | cached _ _ _ _ hd | started _ _ _ _ hd => cases hd

theorem alike_textChanged {v : Service} {file : Path} (hx : v.extensions.supports file = true)
    (host : Host) (s : Session) :
    ((host.visible.filter (Service.shows host file)).foldl (touch v host) s).Alike
      (v.textChanged host file s) := by
  simp only [Service.textChanged, hx, Bool.not_true, Bool.false_eq_true, ite_false]
  split
  · exact alike_showStatus v.settings host _ _
  · exact .refl _

/-- No edit starts a run. -/
theorem started_textChanged {v : Service} {file : Path}
    (hx : v.extensions.supports file = true) (host : Host) (s : Session) :
    (v.textChanged host file s).ledger.started = s.ledger.started := by
  have hall : ∀ (editors : List EditorId) (s : Session),
      (editors.foldl (touch v host) s).ledger.started = s.ledger.started := by
    intro editors
    induction editors with
    | nil => exact fun _ => rfl
    | cons x editors ih =>
        intro s
        exact (ih (touch v host s x)).trans (started_request_debounced v host x _)
  exact (congrArg Ledger.started (alike_textChanged hx host s).ledger).trans (hall _ s)

end Session

end Gutter
