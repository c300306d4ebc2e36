import Gutter.Proofs.Session.Editor
import Gutter.Proofs.Session.Runs

/-!
# What is remembered is up to date

An editor that is idle and needs no check remembers what the linter answers for the text as it is
now, as long as the service is told of every change of the text at once.
-/

namespace Gutter

/-! ## What a check would ask now -/

namespace Service

/-- What the linter would be asked if a check of an editor started now; none if the linter does not
handle the document. -/
def current? (v : Service) (host : Host) (e : EditorId) : Option Request :=
  ((host.file? e).bind v.extensions.kindOf?).map fun kind =>
    ⟨(host.text? e).getD "", kind, v.settings.locale⟩

end Service

namespace Session

/-- The linter has been asked, for a run of an editor, and has answered or will answer: the run is
under way, or its end waits to be handled. -/
def Backed (answers : Request → List Record → Prop) (e : EditorId) (generation : Generation)
    (request : Request) (s : Session) : Prop :=
  ⟨e, generation, request⟩ ∈ s.runs ∨
    ∃ result, .runDone e generation result ∈ s.queue ∧
      ∀ records, result = .ok records → answers request records

/-- What is remembered of an editor fits what a check would ask now: if it needs no check, the run
that is under way has asked this, or the last one has and was answered. -/
def Fresh (level : UInt8) (answers : Request → List Record → Prop) (current : Option Request)
    (e : EditorId) (s : Session) : Prop :=
  ∀ entry, s.entry? e = some entry → ∃ request, current = some request ∧
    (entry.needsCheck = false →
      if entry.isRunning then s.Backed answers e entry.generation request
      else ∃ records, answers request records ∧ entry.findings = some (.ofRecords records level))

variable {s s' : Session} {e x : EditorId} {level : UInt8}
  {answers : Request → List Record → Prop} {current : Option Request} {entry : Entry}

theorem Backed.apart {generation : Generation} {request : Request}
    (h : s.Backed answers e generation request) (ha : Apart e s s') :
    s'.Backed answers e generation request :=
  h.imp (ha.runs _ · rfl) fun ⟨result, hm, hr⟩ => ⟨result, ha.queue _ _ hm, hr⟩

theorem Fresh.apart (h : s.Fresh level answers current e) (ha : Apart e s s') :
    s'.Fresh level answers current e := by
  intro entry' he'
  obtain ⟨markers, he⟩ := exists_entry_of_bare ha.bare.symm he'
  obtain ⟨request, hc, hf⟩ := h _ he
  refine ⟨request, hc, fun hn => ?_⟩
  have hold := hf hn
  split at hold
  · next hr =>
    have hr' : entry'.isRunning = true := hr
    rw [if_pos hr']
    exact hold.apart ha
  · next hr =>
    have hr' : ¬ entry'.isRunning = true := hr
    rw [if_neg hr']
    exact hold

theorem fresh_of_none (he : s.entry? e = none) : s.Fresh level answers current e := by
  intro entry he'
  rw [he] at he'
  cases he'

theorem fresh_of_needsCheck (he : s.entry? e = some entry) (hn : entry.needsCheck = true)
    (hc : current.isSome = true) : s.Fresh level answers current e := by
  intro other ho
  obtain rfl := Option.some.inj (he.symm.trans ho)
  obtain ⟨request, hc⟩ := Option.isSome_iff_exists.mp hc
  refine ⟨request, hc, fun hn' => ?_⟩
  rw [hn] at hn'
  cases hn'

/-- Timers do not matter. -/
theorem Fresh.setTimer (h : s.Fresh level answers current e) {timer : Option TimerToken}
    (he : s'.entry? e = (s.entry? e).map (.setTimer timer))
    (hruns : s'.runs = s.runs) (hq : ∀ generation result,
      .runDone e generation result ∈ s.queue → .runDone e generation result ∈ s'.queue) :
    s'.Fresh level answers current e := by
  intro entry' he'
  rw [he] at he'
  obtain ⟨entry, he, rfl⟩ := Option.map_eq_some_iff.mp he'
  obtain ⟨request, hc, hf⟩ := h entry he
  refine ⟨request, hc, fun hn => ?_⟩
  have hold := hf hn
  split at hold
  · next hr =>
    rw [if_pos (show (entry.setTimer timer).isRunning = true from hr)]
    exact hold.imp (hruns ▸ ·) fun ⟨result, hm, hr⟩ => ⟨result, hq _ _ hm, hr⟩
  · next hr =>
    rw [if_neg (show ¬ (entry.setTimer timer).isRunning = true from hr)]
    exact hold

/-! ## Deeds -/

theorem Fresh.deed {v : Service} {host : Host}
    (h : s.Fresh level answers (v.current? host e) e) (hd : Deed v host s s') :
    s'.Fresh level answers (v.current? host e) e := by
  have hseen := hd.seenFrom e
  cases hseen with
  | apart ha => exact h.apart ha
  | soil =>
      intro entry' he'
      rw [entry?_edit_self] at he'
      obtain ⟨entry, he, rfl⟩ := Option.map_eq_some_iff.mp he'
      obtain ⟨request, hc, -⟩ := h entry he
      exact ⟨request, hc, fun hn => by cases hn⟩
  | meet hf hk he =>
      intro entry he'
      rw [entry?_ensure_self, he] at he'
      obtain rfl := Option.some.inj he'
      exact ⟨_, by rw [Service.current?, hf, Option.bind_some, hk, Option.map_some],
        fun hn => by cases hn⟩
  | setTimer he hr =>
      exact h.setTimer (by rw [entry?_setTimer, if_pos rfl]) rfl fun _ _ hm => hm
  | @start file kind entry hf hk he hr hn =>
      intro entry' he'
      rw [entry?_start, if_pos rfl, he] at he'
      obtain rfl := Option.some.inj he'
      refine ⟨_, by rw [Service.current?, hf, Option.bind_some, hk, Option.map_some], fun _ => ?_⟩
      exact .inl (List.mem_append_right _ (List.mem_singleton.mpr rfl))

theorem Fresh.chain {v : Service} {host : Host}
    (h : s.Fresh level answers (v.current? host e) e) (hc : Chain v host s s') :
    s'.Fresh level answers (v.current? host e) e :=
  chain_of_deed (fun hd hs => hs.deed hd) hc h

/-! ## Events -/

variable {generation : Generation} {records : List Record} {rest : List Event}

/-- The run whose end is handled is the one that the editor waits for, so what it reports is what
the linter has answered. -/
theorem Fresh.answers_of_queue (h : s.Fresh level answers current e) (ha : s.Accounted)
    (hq : s.queue = .runDone e generation (.ok records) :: rest)
    (he : s.entry? e = some entry) (hr : entry.isRunning = true)
    (hg : entry.generation = generation) (hn : entry.needsCheck = false) :
    ∃ request, current = some request ∧ answers request records := by
  obtain ⟨request, hc, hf⟩ := h entry he
  refine ⟨request, hc, ?_⟩
  have hbacked := hf hn
  rw [if_pos hr, hg] at hbacked
  have hnodup := ha.sound.nodup
  simp only [ledger, work, Work.ledger, hq, List.filterMap_cons, Event.run?] at hnodup
  obtain ⟨-, hrest, hdisjoint⟩ := List.nodup_append.mp hnodup
  rcases hbacked with hrun | ⟨result, hm, hanswers⟩
  · exact absurd rfl (hdisjoint _ (List.mem_map_of_mem hrun) _ List.mem_cons_self)
  · rw [hq] at hm
    rcases List.mem_cons.mp hm with heq | hm
    · exact hanswers records (Event.runDone.inj heq).2.2
    · have hmem : (e, generation) ∈ rest.filterMap Event.run? :=
        List.mem_filterMap.mpr ⟨_, hm, rfl⟩
      exact absurd hmem (List.nodup_cons.mp hrest).1

/-- The end of another run of the editor leaves the one that it waits for. -/
theorem Fresh.disregard {result : Except Failure (List Record)}
    (h : s.Fresh level answers current e)
    (hq : s.queue = .runDone x generation result :: rest) (hw : ¬ s.AwaitsRun x generation)
    (reason : CompletionError) : Fresh level answers current e (s.pop.disregard reason) := by
  intro entry he
  obtain ⟨request, hc, hf⟩ := h entry he
  refine ⟨request, hc, fun hn => ?_⟩
  have hold := hf hn
  split at hold
  · next hr =>
    rw [if_pos hr]
    refine hold.imp_right fun ⟨other, hm, hanswers⟩ => ⟨other, ?_, hanswers⟩
    rw [hq] at hm
    rcases List.mem_cons.mp hm with heq | hm
    · obtain ⟨rfl, hg, -⟩ := Event.runDone.inj heq
      exact absurd ⟨entry, he, hr, hg⟩ hw
    · change _ ∈ s.queue.tail
      rwa [hq]
  · next hr =>
    rw [if_neg hr]
    exact hold

theorem Fresh.handleNext {v : Service} {host : Host}
    (h : s.Fresh v.settings.severityLevel answers (v.current? host e) e) (ha : s.Accounted) :
    (v.handleNext host s).Fresh v.settings.severityLevel answers (v.current? host e) e := by
  have htake : ∀ {x token rest}, s.queue = .timerFired x token :: rest →
      Fresh v.settings.severityLevel answers (v.current? host e) e (s.pop.takeTimer x token) := by
    intro x token rest hq
    by_cases hne : e = x
    · subst hne
      refine h.setTimer (entry?_edit_self e _ _) rfl fun g result hm => ?_
      simpa [takeTimer, pop, disarm, edit, hq] using hm
    · exact h.apart (apart_takeTimer hne hq)
  have hhandled := Service.handled v host s
  generalize v.handleNext host s = s' at hhandled ⊢
  cases hhandled with
  | idle => exact h
  | orphaned hq => exact (h.apart (apart_pop hq (by simp))).apart (alike_note rfl _).apart
  | superseded hq => exact (h.apart (apart_pop hq (by simp))).apart (alike_note rfl _).apart
  | unseen hq => exact htake hq
  | heard hq => exact (htake hq).chain (Service.request_chain v host _ false _)
  | evicted hq he => exact h.disregard hq (by simp [AwaitsRun, he]) _
  | stale hq he hg => exact h.disregard hq (by simpa [AwaitsRun, he] using hg) _
  | @failed x generation failure rest entry hq he hr hg =>
      by_cases hne : e = x
      · subst hne
        obtain ⟨request, hc, -⟩ := h entry he
        exact fresh_of_needsCheck ((entry?_edit_self e .fail _).trans (congrArg _ he)) rfl
          (by rw [hc]; rfl)
      · exact h.apart (apart_abandon hne hq)
  | @stored x generation records rest entry hq he hr hg hn =>
      refine Fresh.apart ?_ (alike_render v.settings host x _).apart
      by_cases hne : e = x
      · subst hne
        obtain ⟨request, hc, hanswers⟩ := h.answers_of_queue ha hq he hr hg hn
        intro entry' he'
        rw [entry?_store (s := s.pop) he] at he'
        obtain rfl := Option.some.inj he'
        refine ⟨request, hc, fun _ => ?_⟩
        rw [if_neg (by simp [Entry.commit])]
        exact ⟨records, hanswers, rfl⟩
      · exact h.apart (apart_store hne hq _)
  | @trailed x generation records rest entry hq he hr hg hn =>
      refine Fresh.chain ?_ (Service.request_chain v host x true _)
      refine (Fresh.apart ?_ (alike_render v.settings host x _).apart).apart
        (alike_note rfl _).apart
      by_cases hne : e = x
      · subst hne
        obtain ⟨request, hc, -⟩ := h entry he
        exact fresh_of_needsCheck (entry?_store (s := s.pop) he generation _) hn (by rw [hc]; rfl)
      · exact h.apart (apart_store hne hq _)

/-- The end of a run answers what it has asked. -/
theorem Fresh.finish (h : s.Fresh level answers current e) (ha : s.Accounted)
    (generation : Generation) (result : Except Failure (List Record))
    (hanswers : ∀ records, result = .ok records → ∀ run ∈ s.runs, run.generation = generation →
      run.editor = e → answers run.request records) :
    (s.finish generation result).Fresh level answers current e := by
  intro entry he
  rw [entry?_finish] at he
  obtain ⟨request, hc, hf⟩ := h entry he
  refine ⟨request, hc, fun hn => ?_⟩
  have hold := hf hn
  split at hold
  · next hr =>
    rw [if_pos hr]
    unfold Session.finish
    split
    · exact hold
    · next run hfind =>
      have hmem := List.mem_of_find?_eq_some hfind
      have hgen : run.generation = generation := by simpa using List.find?_some hfind
      rcases hold with hrun | ⟨other, hm, hother⟩
      · by_cases hg : entry.generation = generation
        · obtain rfl := eq_of_mem_runs ha.sound hrun hmem (hg.trans hgen.symm)
          refine .inr ⟨result, ?_, fun records hok => hanswers records hok _ hrun hgen rfl⟩
          rw [hg]
          exact List.mem_append_right _ (List.mem_singleton.mpr rfl)
        · exact .inl (List.mem_filter.mpr ⟨hrun, by simpa using hg⟩)
      · exact .inr ⟨other, List.mem_append_left _ hm, hother⟩
  · next hr =>
    rw [if_neg hr]
    exact hold

/-! ## Edits -/

/-- After an edit the editor needs a check, or one has started with the text as it is now. -/
theorem fresh_textChanged {v : Service} {host : Host} {file : Path}
    (hh : host.Displays e file) (hx : v.extensions.supports file = true) (s : Session) :
    (v.textChanged host file s).Fresh level answers (v.current? host e) e := by
  have hmem : e ∈ host.visible.filter (Service.shows host file) :=
    List.mem_filter.mpr ⟨hh.1, hh.2⟩
  obtain ⟨first, last, hlist⟩ := List.append_of_mem hmem
  obtain ⟨f, kind, hf, hk⟩ := hh.exists_kind hx
  unfold Service.textChanged
  rw [hx, hlist, List.foldl_append, List.foldl_cons]
  generalize first.foldl (fun s x => (v.request host x true (s.edit x .soil)).1) s = t
  have hsoil : (t.edit e .soil).Fresh level answers (v.current? host e) e := by
    intro entry' he'
    rw [entry?_edit_self] at he'
    obtain ⟨entry, -, rfl⟩ := Option.map_eq_some_iff.mp he'
    exact ⟨_, by rw [Service.current?, hf, Option.bind_some, hk, Option.map_some],
      fun hn => by cases hn⟩
  have hlast := (hsoil.chain (Service.request_chain v host e true _)).chain <|
    Service.foldl_chain v host (fun s x => (Relation.ReflTransGen.single (.soil x)).trans
      (Service.request_chain v host x true _)) last _
  simp only [Bool.not_true, Bool.false_eq_true, ite_false]
  split
  · exact hlast.apart (alike_showStatus _ _ _ _).apart
  · exact hlast

/-! ## Moves -/

theorem fresh_keptByDeeds (v : Service) (level : UInt8) (answers : Request → List Record → Prop)
    (current : Option Request) (e : EditorId) :
    KeptByDeeds v (fun host => v.current? host e = current) []
      (Fresh level answers current e) where
  deed := by
    rintro host s s' rfl hd h
    exact h.deed hd
  close := by
    intro s keep _ h entry he
    rw [entry?_close] at he
    split at he
    · next hk => exact h.apart (apart_close hk s) entry (by rw [entry?_close, if_pos hk, he])
    · cases he

theorem Fresh.perform {c : Scene}
    (h : c.session.Fresh c.service.settings.severityLevel answers (c.service.current? c.host e) e)
    (ha : c.session.Accounted) {m : Scene.Move} (hm : ∀ host, m ≠ .rearrange host)
    (hanswers : ∀ generation records, m = .finish generation (.ok records) →
      ∀ run ∈ c.session.runs, run.generation = generation → run.editor = e →
        answers run.request records) :
    (c.perform m).session.Fresh c.service.settings.severityLevel answers
      (c.service.current? c.host e) e := by
  have hdeeds := fresh_keptByDeeds c.service c.service.settings.severityLevel answers
    (c.service.current? c.host e) e
  cases m with
  | rearrange host => exact absurd rfl (hm host)
  | pass ms => exact h
  | ring token => exact h.apart (apart_ring token _)
  | finish generation result =>
      exact h.finish ha generation result fun records hok =>
        hanswers generation records (by rw [hok])
  | call call =>
      simp only [Scene.perform]
      split
      · exact h
      · exact hdeeds.call rfl h (h.handleNext ha)
          (fun x _ => h.apart (alike_refocus _ _ x _).apart) (by simp)
  | dispose =>
      simp only [Scene.perform]
      split
      · exact h
      · exact hdeeds.dispose (rfl : c.service.current? c.host e = _) h
          (fun h => h.apart (alike_draw _ _).apart) (by simp)

end Session

/-! ## Along a course -/

namespace Scene

open Session

/-- An editor shows the same document as before. -/
def SameFile (e : EditorId) (host host' : Host) : Prop :=
  (host'.file? e).map Path.components = (host.file? e).map Path.components

/-- The service is told at once of every change of the text of an editor, while it is on screen, and
its document stays the same. -/
inductive Announced (e : EditorId) : Host → List Move → Prop where
  | nil {host} : Announced e host []
  | move {host m moves} (hm : ∀ host', m ≠ .rearrange host') (h : Announced e host moves) :
      Announced e host (m :: moves)
  | rearrange {host host' moves} (hf : SameFile e host host')
      (ht : (host'.text? e).getD "" = (host.text? e).getD "") (h : Announced e host' moves) :
      Announced e host (.rearrange host' :: moves)
  | edit {host host' file moves} (hf : SameFile e host host') (hd : host'.Displays e file)
      (h : Announced e host' moves) :
      Announced e host (.rearrange host' :: .call (.textChanged file) :: moves)

def Answers (c : Scene) (e : EditorId) (moves : List Move) (request : Request)
    (records : List Record) : Prop :=
  ∃ before generation after, moves = before ++ .finish generation (.ok records) :: after ∧
    ⟨e, generation, request⟩ ∈ (c.play before).session.runs

theorem kindOf?_eq_of_sameFile {e : EditorId} {host host' : Host} (h : SameFile e host host')
    (x : Extensions) :
    (host'.file? e).bind x.kindOf? = (host.file? e).bind x.kindOf? := by
  unfold SameFile at h
  cases hf : host.file? e with
  | none =>
      rw [hf, Option.map_none, Option.map_eq_none_iff] at h
      rw [h]
  | some file =>
      rw [hf, Option.map_some] at h
      obtain ⟨file', hf', hsame⟩ := Option.map_eq_some_iff.mp h
      rw [hf', Option.bind_some, Option.bind_some]
      exact x.kindOf?_eq_of_same (decide_eq_true hsame)

theorem current?_eq_of_sameFile {e : EditorId} {host host' : Host} (h : SameFile e host host')
    (ht : (host'.text? e).getD "" = (host.text? e).getD "") (v : Service) :
    v.current? host' e = v.current? host e := by
  rw [Service.current?, Service.current?, kindOf?_eq_of_sameFile h, ht]

/-- An editor whose document the linter does not handle is not remembered. -/
theorem fresh_of_unsupported {v : Service} {host host' : Host} {e : EditorId} {file : Path}
    {level : UInt8} {answers : Request → List Record → Prop} {s : Session}
    (h : s.Fresh level answers (v.current? host e) e) (hf : SameFile e host host')
    (hd : host'.Displays e file) (hx : v.extensions.supports file = false) :
    s.Fresh level answers (v.current? host' e) e := by
  intro entry he
  obtain ⟨request, hc, -⟩ := h entry he
  have hnone : (host.file? e).bind v.extensions.kindOf? = none := by
    rw [← kindOf?_eq_of_sameFile hf]
    have hshows := hd.2
    unfold Service.shows at hshows
    split at hshows
    · next g hg =>
      rw [hg, Option.bind_some, v.extensions.kindOf?_eq_of_same hshows]
      simpa [Extensions.supports] using hx
    · cases hshows
  rw [Service.current?, hnone] at hc
  cases hc

/-- After a change of the text that is announced, what is remembered fits the new text. -/
theorem fresh_perform_edit {c : Scene} {e : EditorId} {other : Host} {file : Path} {level : UInt8}
    {answers : Request → List Record → Prop}
    (hgone : c.isDisposed = true → c.session.entry? e = none)
    (h : c.session.Fresh level answers (c.service.current? c.host e) e)
    (hf : SameFile e c.host other) (hd : other.Displays e file) :
    ((c.perform (.rearrange other)).perform (.call (.textChanged file))).session.Fresh level answers
      (c.service.current? other e) e := by
  rw [session_perform_call]
  change Fresh level answers (c.service.current? other e) e
    (if c.isDisposed = true then c.session else c.service.textChanged other file c.session)
  split
  · next hdisposed => exact fresh_of_none (hgone hdisposed)
  · cases hx : c.service.extensions.supports file with
    | true => exact fresh_textChanged hd hx c.session
    | false =>
        have hsame : c.service.textChanged other file c.session = c.session := by
          simp [Service.textChanged, hx]
        rw [hsame]
        exact fresh_of_unsupported h hf hd hx

/-- A course in which every change of the text is announced keeps what is remembered up to date. -/
theorem fresh_play (v : Service) (host : Host) (moves : List Move) (e : EditorId)
    (hb : ((opening v host).play moves).session.ledger.started.length < 2 ^ 64)
    {host' : Host} {after : List Move} (ha : Announced e host' after) :
    ∀ before, moves = before ++ after → ((opening v host).play before).host = host' →
      ((opening v host).play before).session.Fresh v.settings.severityLevel
        ((opening v host).Answers e moves) (v.current? host' e) e →
      ((opening v host).play moves).session.Fresh v.settings.severityLevel
        ((opening v host).Answers e moves)
        (v.current? ((opening v host).play moves).host e) e := by
  have hservice : ∀ before, ((opening v host).play before).service = v :=
    fun before => service_play _ before
  induction ha with
  | nil =>
      rintro before rfl rfl h
      simpa using h
  | @move host' m after hm _ ih =>
      rintro before rfl rfl h
      have hacc : ((opening v host).play before).session.Accounted := by
        refine accounted_play v host before (Nat.lt_of_le_of_lt ?_ hb)
        rw [play_append]
        exact length_started_le _ _
      have hstep := Fresh.perform (c := (opening v host).play before) (by rwa [hservice]) hacc hm
        fun generation records heq run hrun hg he => by
          subst heq hg he
          exact ⟨before, run.generation, after, rfl, hrun⟩
      rw [hservice] at hstep
      refine ih (before ++ [m]) (by simp) ?_ ?_
      · rw [play_concat, host_perform_of_ne hm]
      · rw [play_concat]
        exact hstep
  | @rearrange host' other after hf ht _ ih =>
      rintro before rfl rfl h
      refine ih (before ++ [.rearrange other]) (by simp) (by rw [play_concat]; rfl) ?_
      rw [play_concat, current?_eq_of_sameFile hf ht]
      exact h
  | @edit host' other file after hf hdisp _ ih =>
      rintro before rfl rfl h
      have hsplit :
          (opening v host).play (before ++ [.rearrange other, .call (.textChanged file)]) =
            (((opening v host).play before).perform (.rearrange other)).perform
              (.call (.textChanged file)) := by
        rw [play_append]
        rfl
      have hstep := fresh_perform_edit (c := (opening v host).play before)
        (entry?_of_isDisposed · e) (by rwa [hservice]) hf hdisp
      rw [hservice] at hstep
      refine ih (before ++ [.rearrange other, .call (.textChanged file)]) (by simp) ?_ ?_
      · rw [hsplit, host_perform_call]
        rfl
      · rw [hsplit]
        exact hstep

def UpToDate (c : Scene) (e : EditorId) (moves : List Move) (entry : Entry) : Prop :=
  ∃ request records, c.service.current? (c.play moves).host e = some request ∧
    c.Answers e moves request records ∧
    entry.findings = some (.ofRecords records c.service.settings.severityLevel)

/-- The service is told at once of every change of the text of an editor, from a time on at which
the editor is not remembered. Whenever it is idle and needs no check, it remembers what the linter
has answered for the text as it is now, and a request that finds nothing to do draws this anew. Runs
are numbered modulo `2 ^ 64`, so fewer than that may start. -/
theorem cached_upToDate (v : Service) (host : Host) (before after : List Move) (e : EditorId)
    (hb : ((opening v host).play (before ++ after)).session.ledger.started.length < 2 ^ 64)
    (hnew : ((opening v host).play before).session.knows e = false)
    (ha : Announced e ((opening v host).play before).host after) :
    (∀ entry, ((opening v host).play (before ++ after)).session.entry? e = some entry →
      entry.isRunning = false → entry.needsCheck = false →
        (opening v host).UpToDate e (before ++ after) entry) ∧
      ∀ debounce s, v.request ((opening v host).play (before ++ after)).host e debounce
          ((opening v host).play (before ++ after)).session = (s, .cached) →
        ∃ entry, ((opening v host).play (before ++ after)).session.entry? e = some entry ∧
          (opening v host).UpToDate e (before ++ after) entry ∧
          s = (((opening v host).play (before ++ after)).session.note (.cached e)).render
            v.settings ((opening v host).play (before ++ after)).host e := by
  have hnone := knows_eq_false_iff.mp hnew
  have hfresh := fresh_play v host _ e hb ha before rfl rfl (fresh_of_none hnone)
  have hidle : ∀ entry,
      ((opening v host).play (before ++ after)).session.entry? e = some entry →
        entry.isRunning = false → entry.needsCheck = false →
          (opening v host).UpToDate e (before ++ after) entry := by
    intro entry he hr hn
    obtain ⟨request, hc, hf⟩ := hfresh entry he
    have hanswers := hf hn
    rw [if_neg (by simp [hr])] at hanswers
    obtain ⟨records, hrecords, hfindings⟩ := hanswers
    exact ⟨request, records, hc, hrecords, hfindings⟩
  refine ⟨hidle, fun debounce s hs => ?_⟩
  have hreq := Service.requested v ((opening v host).play (before ++ after)).host e debounce
    ((opening v host).play (before ++ after)).session
  rw [hs] at hreq
  generalize ((opening v host).play (before ++ after)).session = t at *
  cases hreq with
  | @cached file kind entry hf hk he hr hd hn =>
      cases hold : t.entry? e with
      | none =>
          rw [entry?_ensure_self, hold] at he
          obtain rfl := Option.some.inj he
          cases hn
      | some old =>
          rw [ensure_of_some hold] at he ⊢
          obtain rfl := Option.some.inj (hold.symm.trans he)
          exact ⟨old, rfl, hidle old hold hr hn, rfl⟩

/-- The text changes during the first check of a file. The check that follows asks for the new text,
and what it finds is remembered. -/
theorem cached_upToDate_of_edit :
    let c := opening (.ofSettings .default) (.script "let")
    let moves : List Move := [.call .activate, .rearrange (.script "var"),
      .call (.textChanged .script), .finish ⟨1⟩ (.ok []), .call .handleNext, .pass 1000,
      .ring ⟨0⟩, .call .handleNext, .finish ⟨2⟩ (.ok [⟨3, 1, "unused", none, 2⟩]),
      .call .handleNext]
    ∃ entry request records, (c.play moves).session.entry? ⟨0⟩ = some entry ∧
      entry.isRunning = false ∧ entry.needsCheck = false ∧ request.text = "var" ∧
      c.Answers ⟨0⟩ moves request records ∧ entry.findings = some (.ofRecords records 0) := by
  have h := cached_upToDate (.ofSettings .default) (.script "let") []
    [.call .activate, .rearrange (.script "var"), .call (.textChanged .script),
      .finish ⟨1⟩ (.ok []), .call .handleNext, .pass 1000, .ring ⟨0⟩, .call .handleNext,
      .finish ⟨2⟩ (.ok [⟨3, 1, "unused", none, 2⟩]), .call .handleNext] ⟨0⟩
    (by decide +kernel) (by decide +kernel)
    (.move (by simp) <| .edit rfl ⟨by decide +kernel, by decide +kernel⟩ <| .move (by simp) <|
      .move (by simp) <| .move (by simp) <| .move (by simp) <| .move (by simp) <|
      .move (by simp) <| .move (by simp) .nil)
  obtain ⟨request, records, hc, hanswers, hfindings⟩ :=
    h.1 _ rfl (by decide +kernel) (by decide +kernel)
  refine ⟨_, request, records, rfl, by decide +kernel, by decide +kernel, ?_, hanswers, hfindings⟩
  obtain rfl := Option.some.inj hc
  rfl

end Scene

end Gutter
