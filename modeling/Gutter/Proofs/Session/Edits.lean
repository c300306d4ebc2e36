import Gutter.Proofs.Session.Editor

/-!
# What becomes of an edit

After the text of a visible document has changed, a check of it is started, or it is under way, or
a timer is set. There is one exception: a check that was under way when the text changed may fail,
and then nothing follows until something else asks for a check.
-/

namespace Gutter

namespace Log

variable {e : EditorId} {news more : List Event}

def Starts (e : EditorId) (news : List Event) : Prop :=
  ∃ generation kind bytes, .runStart e generation kind bytes ∈ news

def Debounces (e : EditorId) (news : List Event) : Prop :=
  ∃ token replaced, .debounce e token replaced ∈ news

def Fails (e : EditorId) (news : List Event) : Prop :=
  ∃ cause, .runFailed (.failed e cause) ∈ news

theorem debounces_append_iff (h : ∀ event ∈ more, event.about? ≠ some e) :
    Debounces e (news ++ more) ↔ Debounces e news := by
  constructor
  · rintro ⟨token, replaced, hm⟩
    exact ⟨token, replaced, (List.mem_append.mp hm).resolve_right fun hm => h _ hm rfl⟩
  · rintro ⟨token, replaced, hm⟩
    exact ⟨token, replaced, List.mem_append_left _ hm⟩

theorem fails_append_iff (h : ∀ event ∈ more, event.about? ≠ some e) :
    Fails e (news ++ more) ↔ Fails e news := by
  constructor
  · rintro ⟨cause, hm⟩
    exact ⟨cause, (List.mem_append.mp hm).resolve_right fun hm => h _ hm rfl⟩
  · rintro ⟨cause, hm⟩
    exact ⟨cause, List.mem_append_left _ hm⟩

theorem Starts.append (h : Starts e news) (more : List Event) : Starts e (news ++ more) := by
  obtain ⟨generation, kind, bytes, hm⟩ := h
  exact ⟨generation, kind, bytes, List.mem_append_left _ hm⟩

end Log

namespace Session

open Log

variable {s s' : Session} {e : EditorId} {entry : Entry} {news old : List Log.Event}

/-! ## Running without a timer -/

def Calm (e : EditorId) (s : Session) : Prop :=
  ∀ entry, s.entry? e = some entry → entry.isRunning = true → entry.timer = none

theorem Calm.apart (h : s.Calm e) (ha : Apart e s s') : s'.Calm e :=
  ha.unnoticed.forall_entry (fun _ _ => id) h

theorem Calm.of_entry (h : s.Calm e) (he : s'.entry? e = s.entry? e) : s'.Calm e :=
  fun entry' he' => h entry' (he ▸ he')

theorem calm_of_idle (he : s.entry? e = some entry) (hr : entry.isRunning = false) :
    s.Calm e :=
  forall_entry_of_some he fun hrun => by simp [hr] at hrun

theorem calm_of_timer (he : s.entry? e = some entry) (ht : entry.timer = none) : s.Calm e :=
  forall_entry_of_some he fun _ => ht

theorem Calm.deed {v : Service} {host : Host} (h : s.Calm e) (hd : Deed v host s s') :
    s'.Calm e := by
  have hseen := hd.seenFrom e
  cases hseen with
  | apart ha => exact h.apart ha
  | soil =>
      intro entry' he' hr
      rw [entry?_edit_self] at he'
      obtain ⟨entry, he, rfl⟩ := Option.map_eq_some_iff.mp he'
      exact h entry he hr
  | @meet file kind hf hk he => exact calm_of_idle (entry?_ensure_self e file s) (by rw [he]; rfl)
  | @setTimer entry he hr =>
      have hset : Session.entry? (s.setTimer v.settings e) e =
          some (entry.setTimer (some s.nextTimer)) := by
        rw [entry?_setTimer, if_pos rfl, he]
        rfl
      exact calm_of_idle hset hr
  | @start file kind entry hf hk he hr hn =>
      have hstart : Session.entry? (s.start v.settings ⟨e, file, kind⟩ ((host.text? e).getD "")) e =
          some (entry.start s.clock.next) := by
        rw [entry?_start, if_pos rfl, he]
        rfl
      exact calm_of_timer hstart rfl

theorem calm_keptByEvents (v : Service) (H : Host → Prop) (e : EditorId) :
    KeptByEvents v H (Calm e) where
  deed _ hd h := h.deed hd
  ignore _ _ h := h
  takeTimer := by
    intro s x token rest entry hq he ht h
    by_cases hx : e = x
    · subst hx
      have htaken : Session.entry? (s.pop.takeTimer e token) e = some (entry.setTimer none) :=
        (entry?_edit_self e _ _).trans (congrArg _ he)
      exact calm_of_timer htaken rfl
    · exact h.apart (apart_takeTimer hx hq)
  disregard _ _ _ h := h
  abandon := by
    rintro s x generation failure rest hq ⟨entry, he, -⟩ h
    by_cases hx : e = x
    · subst hx
      have hfail : Session.entry? (s.pop.abandon e failure) e = some entry.fail :=
        (entry?_edit_self e _ _).trans (congrArg _ he)
      exact calm_of_idle hfail rfl
    · exact h.apart (apart_abandon hx hq)
  store := by
    rintro host s x generation records rest - hq ⟨entry, he, -⟩ h
    refine Calm.apart ?_ (alike_render _ _ _ _).apart
    by_cases hx : e = x
    · subst hx
      exact calm_of_idle (entry?_store (s := s.pop) he generation _) rfl
    · exact h.apart (apart_store hx hq _)

theorem calm_kept (v : Service) (H : Host → Prop) (e : EditorId) : Kept v H [] (Calm e) where
  deed := (calm_keptByEvents v H e).deed
  handleNext := (calm_keptByEvents v H e).handleNext
  close _ h := by
    intro entry he
    rw [entry?_close] at he
    split at he
    · exact h entry he
    · cases he
  refocus e' _ h := h.apart (alike_refocus _ _ e' _).apart
  blank h := h
  pass ms h := h
  ring token h := h.of_entry (entry?_ring token _ e)
  finish generation result h := h.of_entry (entry?_finish generation result _ e)

/-! ## What is pending since an edit -/

/-- What has become of the edit of a document, as the log since then and the entry of an editor that
shows it tell: a run has started, the run of that time is still under way, a timer is waited for, or
that run has failed and the edit is lost. -/
inductive Pending (e : EditorId) (entry : Entry) (news : List Log.Event) : Prop where
  | started (h : Starts e news) : Pending e entry news
  | running (hn : entry.needsCheck = true) (hr : entry.isRunning = true)
      (ht : entry.timer = none) (hd : ¬ Debounces e news) (hf : ¬ Fails e news) :
      Pending e entry news
  | waiting (hn : entry.needsCheck = true) (hr : entry.isRunning = false)
      (ht : entry.timer.isSome = true) (hd : Debounces e news) : Pending e entry news
  | lost (hn : entry.needsCheck = true) (hr : entry.isRunning = false)
      (ht : entry.timer = none) (hd : ¬ Debounces e news) (hf : Fails e news) :
      Pending e entry news

/-- What does not concern the editor leaves its edit where it is. -/
theorem Pending.append {more : List Log.Event} (h : Pending e entry news)
    (hm : ∀ event ∈ more, event.about? ≠ some e) (markers : List MarkerId) :
    Pending e { entry with markers } (news ++ more) := by
  cases h with
  | started h => exact .started (h.append more)
  | running hn hr ht hd hf =>
      exact .running hn hr ht (by rwa [debounces_append_iff hm]) (by rwa [fails_append_iff hm])
  | waiting hn hr ht hd => exact .waiting hn hr ht (by rwa [debounces_append_iff hm])
  | lost hn hr ht hd hf =>
      exact .lost hn hr ht (by rwa [debounces_append_iff hm]) (by rwa [fails_append_iff hm])

def Follows (e : EditorId) (old : List Log.Event) (s : Session) : Prop :=
  ∃ news entry, s.record = old ++ news ∧ s.entry? e = some entry ∧ Pending e entry news

theorem Follows.apart (h : s.Follows e old) (ha : Apart e s s') : s'.Follows e old := by
  obtain ⟨news, entry, hs, he, hp⟩ := h
  obtain ⟨more, hm, habout⟩ := ha.record
  obtain ⟨markers, he'⟩ := ha.exists_entry he
  exact ⟨news ++ more, _, by rw [hm, hs, List.append_assoc], he', hp.append habout markers⟩

theorem follows_setTimer (settings : Settings) (hs : s.record = old ++ news)
    (he : s.entry? e = some entry) (hr : entry.isRunning = false)
    (hn : entry.needsCheck = true) : (s.setTimer settings e).Follows e old := by
  refine ⟨news ++ [.debounce e s.nextTimer ((s.entry? e).bind Entry.timer).isSome],
    entry.setTimer (some s.nextTimer), ?_, ?_, .waiting hn hr rfl ⟨_, _, List.mem_concat_self⟩⟩
  · rw [record_setTimer, hs, List.append_assoc]
  · rw [entry?_setTimer, if_pos rfl, he]
    rfl

theorem follows_start (settings : Settings) (file : Path) (kind : DocKind) (text : String)
    (hs : s.record = old ++ news) (he : s.entry? e = some entry) :
    (s.start settings ⟨e, file, kind⟩ text).Follows e old := by
  refine ⟨news ++ [.runStart e s.clock.next kind text.utf8ByteSize], entry.start s.clock.next,
    ?_, ?_, .started ⟨_, _, _, List.mem_concat_self⟩⟩
  · rw [record_start, hs, List.append_assoc]
  · rw [entry?_start, if_pos rfl, he]
    rfl

theorem Follows.deed {v : Service} {host : Host} (h : s.Follows e old)
    (hd : Deed v host s s') : s'.Follows e old := by
  have hseen := hd.seenFrom e
  cases hseen with
  | apart ha => exact h.apart ha
  | soil =>
      obtain ⟨news, entry, hs, he, hp⟩ := h
      refine ⟨news, entry.soil, hs, by rw [entry?_edit_self, he]; rfl, ?_⟩
      cases hp with
      | started h => exact .started h
      | running hn hr ht hd hf => exact .running rfl hr ht hd hf
      | waiting hn hr ht hd => exact .waiting rfl hr ht hd
      | lost hn hr ht hd hf => exact .lost rfl hr ht hd hf
  | meet _ _ hnone =>
      obtain ⟨news, entry, hs, he, hp⟩ := h
      rw [hnone] at he
      cases he
  | @setTimer entry he hr =>
      obtain ⟨news, other, hs, he', hp⟩ := h
      obtain rfl := Option.some.inj (he.symm.trans he')
      cases hp with
      | started h =>
          refine ⟨_, entry.setTimer (some s.nextTimer),
            by rw [record_setTimer, hs, List.append_assoc], ?_, .started (h.append _)⟩
          rw [entry?_setTimer, if_pos rfl, he]
          rfl
      | running hn hr' => simp [hr] at hr'
      | waiting hn | lost hn => exact follows_setTimer v.settings hs he hr hn
  | start hf hk he hr hn =>
      obtain ⟨news, entry, hs, he', hp⟩ := h
      exact follows_start v.settings _ _ _ hs he'

theorem Follows.chain {v : Service} {host : Host} (h : s.Follows e old)
    (hc : Chain v host s s') : s'.Follows e old :=
  chain_of_deed (fun hd hs => hs.deed hd) hc h

/-! ## Requests -/

section Requests

variable {v : Service} {host : Host} {file : Path}

theorem request_of_idle (hh : host.Displays e file) (hx : v.extensions.supports file = true)
    (he : s.entry? e = some entry) (hr : entry.isRunning = false) :
    ∃ f, (v.request host e true s).1 = (s.ensure e f).setTimer v.settings e := by
  obtain ⟨f, kind, hf, hk⟩ := hh.exists_kind hx
  exact ⟨f, by simp [Service.request, Session.request, hf, hk, he, hr]⟩

theorem request_of_needsCheck (hh : host.Displays e file)
    (hx : v.extensions.supports file = true) (he : s.entry? e = some entry)
    (hr : entry.isRunning = false) (hn : entry.needsCheck = true) :
    ∃ f kind text,
      (v.request host e false s).1 = (s.ensure e f).start v.settings ⟨e, f, kind⟩ text := by
  obtain ⟨f, kind, hf, hk⟩ := hh.exists_kind hx
  exact ⟨f, kind, _, by simp [Service.request, Session.request, hf, hk, he, hr, hn]; rfl⟩

/-! ## Events -/

variable {generation : Generation} {token : TimerToken}

/-- The timer of the editor rings: a check starts, for the editor is on screen. -/
theorem Follows.heard (h : s.Follows e old) (hh : host.Displays e file)
    (hx : v.extensions.supports file = true) (he : s.entry? e = some entry)
    (ht : entry.timer = some token) :
    (v.request host e false (s.pop.takeTimer e token)).1.Follows e old := by
  obtain ⟨news, other, hs, he', hp⟩ := h
  obtain rfl := Option.some.inj (he.symm.trans he')
  have htaken : Session.entry? (s.pop.takeTimer e token) e = some (entry.setTimer none) :=
    (entry?_edit_self e _ _).trans (congrArg _ he)
  have hrecord : (s.pop.takeTimer e token).record = old ++ news := hs
  cases hp with
  | started h =>
      exact Follows.chain ⟨news, _, hrecord, htaken, .started h⟩
        (Service.request_chain v host e false _)
  | waiting hn hr =>
      obtain ⟨f, kind, text, hreq⟩ := request_of_needsCheck hh hx htaken hr hn
      rw [hreq]
      exact follows_start v.settings f kind text (s := (s.pop.takeTimer e token).ensure e f)
        hrecord (entry?_ensure_of_some htaken f)
  | running _ _ ht' => simp [ht] at ht'
  | lost _ _ ht' => simp [ht] at ht'

theorem Follows.disregard (h : s.Follows e old) (reason : CompletionError) :
    (s.pop.disregard reason).Follows e old := by
  obtain ⟨news, entry, hs, he, hp⟩ := h
  refine ⟨news ++ [.completionStale reason], entry, ?_, he, ?_⟩
  · refine (record_note rfl _).trans ?_
    rw [← List.append_assoc, ← hs]
    rfl
  · exact hp.append (by simp [Log.Event.about?]) entry.markers

/-- The run of the editor fails, and nothing follows from that. -/
theorem Follows.abandon {failure : Failure} (h : s.Follows e old)
    (he : s.entry? e = some entry) (hr : entry.isRunning = true) :
    (s.pop.abandon e failure).Follows e old := by
  obtain ⟨news, other, hs, he', hp⟩ := h
  obtain rfl := Option.some.inj (he.symm.trans he')
  refine ⟨news ++ [.runFailed (.failed e failure)], entry.fail, ?_, ?_, ?_⟩
  · refine (record_note rfl _).trans ?_
    rw [← List.append_assoc, ← hs]
    rfl
  · exact (entry?_edit_self e .fail _).trans (congrArg _ he)
  · cases hp with
    | started h => exact .started (h.append _)
    | running _ _ ht hd =>
        refine .lost rfl rfl ht ?_ ⟨failure, List.mem_concat_self⟩
        rintro ⟨token, replaced, hm⟩
        exact hd ⟨token, replaced, by simpa using hm⟩
    | waiting _ hr' | lost _ hr' => simp [hr] at hr'

/-- What the log and the entry tell after the run of an editor was stored and drawn. -/
theorem exists_stored (he : s.entry? e = some entry) (generation : Generation)
    (findings : Findings) (settings : Settings) (host : Host) :
    ∃ issues markers,
      ((s.pop.store e generation findings).render settings host e).record =
        s.record ++ [.runDone e generation issues] ∧
      Session.entry? ((s.pop.store e generation findings).render settings host e) e =
        some { entry.commit findings with markers } := by
  have ha := alike_render settings host e (s.pop.store e generation findings)
  obtain ⟨markers, he'⟩ := ha.exists_entry (entry?_store (s := s.pop) he generation findings)
  have hrecord : ((s.pop.store e generation findings).render settings host e).record =
      (s.pop.store e generation findings).record := congrArg Work.record ha.work
  exact ⟨_, markers, hrecord.trans (record_note rfl s.pop), he'⟩

/-- The run of the editor is stored, and another check follows unless one has started since. -/
theorem Follows.trail (h : s.Follows e old) (hh : host.Displays e file)
    (hx : v.extensions.supports file = true) (he : s.entry? e = some entry)
    (hr : entry.isRunning = true) (findings : Findings) :
    (v.request host e true (((s.pop.store e generation findings).render v.settings host e).note
      (.trailingCheck e))).1.Follows e old := by
  obtain ⟨news, other, hs, he', hp⟩ := h
  obtain rfl := Option.some.inj (he.symm.trans he')
  obtain ⟨issues, markers, hrecord, hstored⟩ :=
    exists_stored he generation findings v.settings host
  generalize (s.pop.store e generation findings).render v.settings host e = t at *
  have hnote : (t.note (.trailingCheck e)).record =
      old ++ (news ++ [.runDone e generation issues]) := by
    rw [← List.append_assoc, ← hs, ← hrecord, record, record, note, List.filter_append]
    simp [Log.Event.isAside]
  cases hp with
  | started h =>
      exact Follows.chain ⟨_, _, hnote, hstored, .started (h.append _)⟩
        (Service.request_chain v host e true _)
  | running hn =>
      obtain ⟨f, hreq⟩ := request_of_idle (s := t.note (.trailingCheck e)) hh hx hstored rfl
      rw [hreq]
      exact follows_setTimer v.settings (s := (t.note (.trailingCheck e)).ensure e f) hnote
        (entry?_ensure_of_some hstored f) rfl hn
  | waiting _ hr' | lost _ hr' => simp [hr] at hr'

theorem Follows.handleNext (h : s.Follows e old) (hh : host.Displays e file)
    (hx : v.extensions.supports file = true) : (v.handleNext host s).Follows e old := by
  have hhandled := Service.handled v host s
  generalize v.handleNext host s = s' at hhandled ⊢
  cases hhandled with
  | idle => exact h
  | orphaned hq => exact (h.apart (apart_pop hq (by simp))).apart (alike_note rfl _).apart
  | superseded hq => exact (h.apart (apart_pop hq (by simp))).apart (alike_note rfl _).apart
  | @unseen x token rest entry hq he ht hv =>
      have hne : e ≠ x := by
        rintro rfl
        exact hv hh.1
      exact h.apart (apart_takeTimer hne hq)
  | @heard x token rest entry hq he ht hv =>
      by_cases hne : e = x
      · subst hne
        exact h.heard hh hx he ht
      · exact (h.apart (apart_takeTimer hne hq)).chain (Service.request_chain v host x false _)
  | evicted hq => exact h.disregard _
  | stale hq => exact h.disregard _
  | @failed x generation failure rest entry hq he hr hg =>
      by_cases hne : e = x
      · subst hne
        exact h.abandon he hr
      · exact h.apart (apart_abandon hne hq)
  | @stored x generation records rest entry hq he hr hg hn =>
      by_cases hne : e = x
      · subst hne
        obtain ⟨news, other, hs, he', hp⟩ := h
        obtain rfl := Option.some.inj (he.symm.trans he')
        obtain ⟨issues, markers, hrecord, hstored⟩ := exists_stored he generation
          (.ofRecords records v.settings.severityLevel) v.settings host
        cases hp with
        | started h =>
            exact ⟨_, _, by rw [hrecord, hs, List.append_assoc], hstored, .started (h.append _)⟩
        | running hn' | waiting hn' | lost hn' => simp [hn] at hn'
      · exact (h.apart (apart_store hne hq _)).apart (alike_render v.settings host x _).apart
  | @trailed x generation records rest entry hq he hr hg hn =>
      by_cases hne : e = x
      · subst hne
        exact h.trail hh hx he hr _
      · exact (((h.apart (apart_store hne hq _)).apart
          (alike_render v.settings host x _).apart).apart (alike_note rfl _).apart).chain
            (Service.request_chain v host x true _)

/-! ## The edit itself -/

theorem needsCheck_of_soil {f : Path}
    (he : Session.entry? ((s.edit e .soil).ensure e f) e = some entry) :
    entry.needsCheck = true := by
  rw [entry?_ensure_self, entry?_edit_self] at he
  obtain rfl := Option.some.inj he
  cases s.entry? e <;> rfl

/-- After the edit a check is under way, or the timer is set. -/
theorem follows_request (hcalm : s.Calm e) (hh : host.Displays e file)
    (hx : v.extensions.supports file = true) (hs : s.record = old ++ news)
    (hn : ∀ event ∈ news, event.about? ≠ some e) :
    (v.request host e true (s.edit e .soil)).1.Follows e old := by
  have hd : ¬ Debounces e news := by
    rintro ⟨token, replaced, hm⟩
    exact hn _ hm rfl
  have hf : ¬ Fails e news := by
    rintro ⟨cause, hm⟩
    exact hn _ hm rfl
  obtain ⟨f, kind, hfile, hk⟩ := hh.exists_kind hx
  have h := Service.requested v host e true (s.edit e .soil)
  generalize v.request host e true (s.edit e .soil) = answer at h ⊢
  cases h with
  | gone hf' => simp [hfile] at hf'
  | unsupported hf' hk' =>
      obtain rfl := Option.some.inj (hfile.symm.trans hf')
      simp [hk] at hk'
  | @busy g _ entry hf' hk' he hr =>
      have hsoil : Deed v host s (s.edit e .soil) := .soil e
      have hcalm' := (hcalm.deed hsoil).deed (.meet hf' hk')
      refine ⟨news, entry, ?_, he, .running (needsCheck_of_soil he) hr (hcalm' entry he hr) hd hf⟩
      exact (congrArg Work.record (alike_note rfl _).work).trans hs
  | debounced _ _ he hr =>
      exact follows_setTimer v.settings hs he hr (needsCheck_of_soil he)
  | cached _ _ _ _ hd | started _ _ _ _ hd => cases hd

/-- Whatever was under way, something becomes of an edit. -/
theorem follows_textChanged (hcalm : s.Calm e) (hh : host.Displays e file)
    (hx : v.extensions.supports file = true) :
    (v.textChanged host file s).Follows e s.record := by
  have hmem : e ∈ host.visible.filter (Service.shows host file) :=
    List.mem_filter.mpr ⟨hh.1, hh.2⟩
  obtain ⟨first, last, hlist, hnot⟩ := List.eq_append_cons_of_mem hmem
  unfold Service.textChanged
  rw [hx, hlist, List.foldl_append, List.foldl_cons]
  -- the editors before it do not concern the editor, and those after it keep what has become
  have hfirst := apart_foldl (fun s x hne =>
    (apart_edit hne .soil s).trans (apart_request hne v host true _)) hnot s
  obtain ⟨news, hs, hn⟩ := hfirst.record
  have hlast := Follows.chain (follows_request (hcalm.apart hfirst) hh hx hs hn) <|
    Service.foldl_chain v host (fun s x => (Relation.ReflTransGen.single (.soil x)).trans
      (Service.request_chain v host x true _)) last _
  simp only [Bool.not_true, Bool.false_eq_true, ite_false]
  split
  · exact hlast.apart (alike_showStatus _ _ _ _).apart
  · exact hlast

end Requests

/-! ## Along a course -/

/-- As long as an editor displays a document, something becomes of the last edit. -/
theorem follows_kept {v : Service} {file : Path} (hx : v.extensions.supports file = true)
    (e : EditorId) (old : List Log.Event) :
    Kept v (·.Displays e file) [e] (Follows e old) where
  deed _ hd h := h.deed hd
  handleNext hh _ h := h.handleNext hh hx
  close hkeep h := h.apart (apart_close (hkeep e (by simp)) _)
  refocus e' _ h := h.apart (alike_refocus _ _ e' _).apart
  blank h := h.apart (alike_draw _ _).apart
  pass ms h := h
  ring token h := h.apart (apart_ring token _)
  finish generation result h := by
    obtain ⟨news, entry, hs, he, hp⟩ := h
    refine ⟨news, entry, ?_, (entry?_finish generation result _ e).trans he, hp⟩
    rw [← hs]
    rcases finish_cases generation result _ with h | ⟨run, -, h⟩ <;> rw [h]
    rfl

/-- The text of a document that an editor displays has changed. In every later state, as long as the
editor displays the document and is not forgotten, a run has started for it since then, or it is
running, or it has a timer, with one exception: the run that was under way when the text changed has
failed, and nothing has asked for a check since. -/
theorem edit_lost_iff (v : Service) (host : Host) (before after : List Scene.Move) (e : EditorId)
    (file : Path) (hd : ((Scene.opening v host).play before).isDisposed = false)
    (hx : v.extensions.supports file = true)
    (hh : ((Scene.opening v host).play before).host.Displays e file)
    (hm : ∀ m ∈ after, m.Within (·.Displays e file))
    (hk : ¬ ((Scene.opening v host).play (before ++ [.call (.textChanged file)])).Forgets e
      after) :
    ∃ news entry,
      ((Scene.opening v host).play
          (before ++ .call (.textChanged file) :: after)).session.record =
        ((Scene.opening v host).play before).session.record ++ news ∧
      ((Scene.opening v host).play
          (before ++ .call (.textChanged file) :: after)).session.entry? e = some entry ∧
      (¬ (Log.Starts e news ∨ entry.isRunning = true ∨ entry.timer.isSome = true) ↔
        Log.Fails e news ∧ ¬ Log.Starts e news ∧ ¬ Log.Debounces e news) := by
  have hservice : ((Scene.opening v host).play before).service = v := Scene.service_play _ _
  have hcalm : ((Scene.opening v host).play before).session.Calm e :=
    (calm_kept v (fun _ => True) e).play (c := .opening v host) trivial
      (fun _ he => by simp [Scene.opening] at he) (fun m _ => m.within_true) (by simp)
  rw [Scene.play_append_cons]
  rw [Scene.play_concat] at hk ⊢
  generalize (Scene.opening v host).play before = c at *
  have hsession : (c.perform (.call (.textChanged file))).session =
      v.textChanged c.host file c.session := by
    simp [Scene.perform, hd, Scene.Call.run, hservice]
  have hfollows : (c.perform (.call (.textChanged file))).session.Follows e c.session.record :=
    hsession ▸ follows_textChanged hcalm hh hx
  have hknows : (c.perform (.call (.textChanged file))).session.knows e = true := by
    obtain ⟨news, entry, -, he, -⟩ := hfollows
    exact knows_iff.mpr ⟨entry, he⟩
  have hkept : Kept (c.perform (.call (.textChanged file))).service (·.Displays e file) [e]
      (Follows e c.session.record) := by
    rw [Scene.service_perform, hservice]
    exact follows_kept hx e _
  obtain ⟨news, entry, hs, he, hp⟩ := hkept.play (Scene.host_perform hh trivial) hfollows hm
    fun x hmem first hfirst => by
      obtain rfl := List.mem_singleton.mp hmem
      exact Scene.knows_of_not_forgets hk hknows hfirst
  refine ⟨news, entry, hs, he, ?_⟩
  cases hp with
  | started h => simp [h]
  | running _ hr _ _ hf => simp [hr, hf]
  | waiting _ _ ht hdb => simp [ht, hdb]
  | lost _ hr ht hdb hf => simp [hr, ht, hdb, hf]

/-- The text changes during the first check of a file, and the check fails: no check is under way,
no timer is set, and no run has started. -/
theorem edit_lost_of_failure :
    let c := Scene.opening (.ofSettings .default) (.script "let")
    let s := (c.play [.call .activate, .call (.textChanged .script), .finish ⟨1⟩ (.error .crash),
      .call .handleNext]).session
    ∃ news entry, s.record = (c.play [.call .activate]).session.record ++ news ∧
      s.entry? ⟨0⟩ = some entry ∧
      ¬ (Log.Starts ⟨0⟩ news ∨ entry.isRunning = true ∨ entry.timer.isSome = true) := by
  obtain ⟨news, entry, hs, he, hiff⟩ := edit_lost_iff (.ofSettings .default) (.script "let")
    [.call .activate] [.finish ⟨1⟩ (.error .crash), .call .handleNext] ⟨0⟩ .script
    (by decide +kernel) (by decide +kernel) ⟨by decide +kernel, by decide +kernel⟩
    (by simp [Scene.Move.Within]) (by decide +kernel)
  have hnews : news = [.runFailed (.failed ⟨0⟩ .crash)] :=
    List.append_cancel_left (hs.symm.trans (by decide +kernel))
  refine ⟨news, entry, hs, he, hiff.mpr ⟨⟨.crash, ?_⟩, ?_, ?_⟩⟩
  · simp [hnews]
  · simp [Log.Starts, hnews]
  · simp [Log.Debounces, hnews]

end Session

end Gutter
