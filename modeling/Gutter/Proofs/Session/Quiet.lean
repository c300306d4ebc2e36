import Gutter.Proofs.Session.Edits
import Gutter.Proofs.Session.Ledger
import Gutter.Proofs.Session.Timers

/-!
# Quiet periods

An editor is woken once for the timer that it waits for, and not before the quiet period is over.
Events of other timers may still be in the queue, and nothing comes of them.
-/

namespace Gutter

/-! ## Requests -/

namespace Service

variable (v : Service) (host : Host) (e : EditorId) (debounce : Bool) (s : Session)

/-- A request sets a timer exactly if it is put off. -/
theorem timersSet_request :
    (v.request host e debounce s).1.timersSet =
      s.timersSet ++
        if (v.request host e debounce s).2 = .debounced then [(e, s.nextTimer)] else [] := by
  have h := requested v host e debounce s
  generalize v.request host e debounce s = answer at h ⊢
  cases h with
  | gone => simp
  | unsupported => simpa using (Session.alike_note rfl s).drops.timersSet
  | @busy file =>
      simpa using (Session.alike_note rfl _).drops.timersSet.trans
        (Session.drops_ensure e file s).timersSet
  | @debounced file =>
      simp only [ite_true, Session.timersSet_setTimer, (Session.drops_ensure e file s).timersSet]
      rfl
  | @cached file =>
      simpa using ((Session.alike_note rfl _).trans
        (Session.alike_render v.settings host e _)).drops.timersSet.trans
          (Session.drops_ensure e file s).timersSet
  | @started file =>
      simpa using (Session.drops_start _ _ _ _).timersSet.trans
        (Session.drops_ensure e file s).timersSet

/-- A request starts a run for no other editor. -/
theorem eq_of_mem_started_request {r : RunName} (hnot : r ∉ s.ledger.started)
    (hr : r ∈ (v.request host e debounce s).1.ledger.started) : r.1 = e := by
  have h := requested v host e debounce s
  generalize v.request host e debounce s = answer at h hr
  have hensure : ∀ file, (s.ensure e file).ledger.started = s.ledger.started := fun _ => rfl
  cases h with
  | gone => exact absurd hr hnot
  | unsupported =>
      rw [(Session.alike_note rfl s).ledger] at hr
      exact absurd hr hnot
  | busy =>
      rw [(Session.alike_note rfl _).ledger, hensure] at hr
      exact absurd hr hnot
  | @debounced file =>
      have hsame : Session.SameRuns [] _ _ :=
        Session.sameRuns_setTimer v.settings e (s.ensure e file)
      rw [hsame.started, hensure] at hr
      exact absurd hr hnot
  | cached =>
      rw [((Session.alike_note rfl _).trans (Session.alike_render v.settings host e _)).ledger,
        hensure] at hr
      exact absurd hr hnot
  | started _ _ he hr' =>
      rw [(Session.starts_start v.settings _ he hr').started, hensure, List.mem_append] at hr
      rw [List.mem_singleton.mp (hr.resolve_left hnot)]

end Service

namespace Session

variable {s s' : Session} {e x : EditorId} {k : TimerToken} {rest : List Event}

/-! ## Events of timers -/

theorem queue_of_rung (hr : s.rung = [(e, k)]) (hl : s.queue.length = 1) :
    s.queue = [.timerFired e k] := by
  obtain ⟨event, hq⟩ := List.length_eq_one_iff.mp hl
  rw [rung, hq] at hr
  cases event with
  | timerFired x token =>
      obtain ⟨rfl, rfl⟩ : x = e ∧ token = k := by simpa [Event.timer?] using hr
      exact hq
  | runDone => cases hr

/-- Nothing comes of the event of a timer that its editor does not wait for. -/
theorem handleNext_of_timer?_ne (v : Service) (host : Host)
    (hq : s.queue = .timerFired e k :: rest) (hk : s.timer? e ≠ some k) :
    ∃ event, event.isAside = true ∧ v.handleNext host s = s.pop.note event := by
  have h := Service.handled v host s
  generalize v.handleNext host s = s' at h ⊢
  cases h with
  | idle hq' => simp [hq] at hq'
  | orphaned => exact ⟨_, rfl, rfl⟩
  | superseded => exact ⟨_, rfl, rfl⟩
  | unseen hq' he ht | heard hq' he ht =>
      obtain ⟨⟨rfl, rfl⟩, rfl⟩ : (_ ∧ _) ∧ _ := by simpa [hq] using hq'
      exact absurd ((timer?_of_entry he).trans ht) hk
  | evicted hq' | stale hq' | failed hq' | stored hq' | trailed hq' => simp [hq] at hq'

/-- A run that starts with the event of a timer is one of its editor, which is on screen and waits
for that timer. -/
theorem heard_of_started {v : Service} {host : Host} {r : RunName}
    (hq : s.queue = .timerFired e k :: rest) (hnot : r ∉ s.ledger.started)
    (hr : r ∈ (v.handleNext host s).ledger.started) :
    r.1 = e ∧ e ∈ host.visible ∧ s.timer? e = some k := by
  by_cases hk : s.timer? e = some k
  · have h := Service.handled v host s
    generalize v.handleNext host s = s' at h hr
    cases h with
    | idle => exact absurd hr hnot
    | orphaned hq' he =>
        obtain ⟨⟨rfl, rfl⟩, rfl⟩ : (_ ∧ _) ∧ _ := by simpa [hq] using hq'
        simp [timer?, he] at hk
    | superseded hq' he ht =>
        obtain ⟨⟨rfl, rfl⟩, rfl⟩ : (_ ∧ _) ∧ _ := by simpa [hq] using hq'
        exact absurd ((timer?_of_entry he).symm.trans hk) ht
    | unseen hq' =>
        have hsame : s.SameRuns [] _ := sameRuns_takeTimer hq'
        rw [hsame.started] at hr
        exact absurd hr hnot
    | heard hq' he ht hv =>
        obtain ⟨⟨rfl, rfl⟩, rfl⟩ : (_ ∧ _) ∧ _ := by simpa [hq] using hq'
        have hsame : s.SameRuns [] _ := sameRuns_takeTimer hq'
        exact ⟨v.eq_of_mem_started_request host e false _ (hsame.started ▸ hnot) hr, hv, hk⟩
    | evicted hq' | stale hq' | failed hq' | stored hq' | trailed hq' => simp [hq] at hq'
  · obtain ⟨event, hevent, hs'⟩ := handleNext_of_timer?_ne v host hq hk
    rw [hs', (alike_note hevent s.pop).ledger, ledger_pop_timerFired hq] at hr
    exact absurd hr hnot

/-! ## Timers that nobody waits for -/

def Overtaken (t : TimerName) (s : Session) : Prop := t ∈ s.timersSet ∧ s.timer? t.1 ≠ some t.2

/-- A timer that is overtaken stays so, even if its editor is forgotten and comes back. -/
theorem overtaken_kept (v : Service) (H : Host → Prop) (t : TimerName) :
    Kept v H [] fun s => s.timersSet.length < 2 ^ 64 → s.Timed ∧ s.Overtaken t := by
  refine kept_of_timed (fun _ h hq => ?_) fun hs he hq => ?_
  · exact ⟨h.timersSet ▸ hq.1, fun hk => hq.2 (h.timer _ _ hk)⟩
  · refine ⟨?_, fun hk => ?_⟩
    · rw [timersSet_setTimer]
      exact List.mem_append_left _ hq.1
    · rw [timer?_setTimer he] at hk
      split at hk
      · exact hs.ne_next hq.1 (Option.some.inj hk).symm
      · exact hq.2 hk

/-! ## When a timer rings -/

/-- A timer was set that rings at some time. -/
structure RingsAt (t : TimerName) (due : Nat) (s : Session) : Prop where
  set : t ∈ s.timersSet
  alarms : ∀ a ∈ s.alarms, a.name = t → a.due = due
  rung : t ∈ s.rung → due ≤ s.now

theorem RingsAt.drops {t : TimerName} {due : Nat} (h : s.RingsAt t due) (hd : s.Drops s') :
    s'.RingsAt t due where
  set := hd.timersSet ▸ h.set
  alarms a ha := h.alarms a (hd.alarms a ha)
  rung hmem := by
    rcases hd.rung t hmem with hmem | ⟨a, ha, hname, hdue⟩
    · exact Nat.le_trans (h.rung hmem) hd.now
    · exact h.alarms a ha hname ▸ hdue

/-- A timer that is set rings when the quiet period is over. -/
theorem ringsAt_setTimer (hs : s.Timed) (settings : Settings) (e : EditorId) :
    RingsAt (e, s.nextTimer) (s.now + settings.debounceMs.toNat) (s.setTimer settings e) := by
  have hnew : (e, s.nextTimer) ∉ s.sources := fun hmem => hs.ne_next (hs.set _ hmem) rfl
  refine ⟨?_, fun a ha hname => ?_, fun hmem => absurd (List.mem_append_right _ hmem) hnew⟩
  · rw [timersSet_setTimer]
    exact List.mem_concat_self
  · rw [alarms_setTimer] at ha
    rcases List.mem_append.mp ha with ha | ha
    · have hmem := List.mem_map_of_mem (f := Alarm.name) (List.mem_filter.mp ha).1
      exact absurd (List.mem_append_left _ (hname ▸ hmem)) hnew
    · rw [List.mem_singleton.mp ha]

/-- No timer that is set later has the name of an earlier one, so its time stays. -/
theorem ringsAt_kept (v : Service) (H : Host → Prop) (t : TimerName) (due : Nat) :
    Kept v H [] fun s => s.timersSet.length < 2 ^ 64 → s.Timed ∧ s.RingsAt t due := by
  refine kept_of_timed (fun _ hd h => h.drops hd) fun hs _ h => ?_
  refine ⟨?_, fun a ha hname => ?_, h.rung⟩
  · rw [timersSet_setTimer]
    exact List.mem_append_left _ h.set
  · rw [alarms_setTimer] at ha
    rcases List.mem_append.mp ha with ha | ha
    · exact h.alarms a (List.mem_filter.mp ha).1 hname
    · rw [List.mem_singleton.mp ha] at hname
      exact absurd (congrArg Prod.snd hname).symm (hs.ne_next h.set)

/-! ## Timers that are waited for -/

def Asleep (e : EditorId) (time : Nat) (s : Session) : Prop :=
  ∀ k, s.timer? e = some k →
    (∀ a ∈ s.alarms, a.name = (e, k) → time ≤ a.due) ∧ ((e, k) ∈ s.rung → time ≤ s.now)

theorem Asleep.drops {time : Nat} (h : s.Asleep e time) (hd : s.Drops s') :
    s'.Asleep e time := by
  intro k hk
  obtain ⟨halarms, hrung⟩ := h k (hd.timer e k hk)
  refine ⟨fun a ha => halarms a (hd.alarms a ha), fun hmem => ?_⟩
  rcases hd.rung _ hmem with hmem | ⟨a, ha, hname, hdue⟩
  · exact Nat.le_trans (hrung hmem) hd.now
  · exact Nat.le_trans (halarms a ha hname) hdue

/-- Setting the timer of another editor. -/
theorem Asleep.setTimer {time : Nat} (h : s.Asleep e time) (hx : e ≠ x) {entry : Entry}
    (he : s.entry? x = some entry) (settings : Settings) :
    (s.setTimer settings x).Asleep e time := by
  intro k hk
  rw [timer?_setTimer he, if_neg hx] at hk
  obtain ⟨halarms, hrung⟩ := h k hk
  refine ⟨fun a ha hname => ?_, hrung⟩
  rw [alarms_setTimer] at ha
  rcases List.mem_append.mp ha with ha | ha
  · exact halarms a (List.mem_filter.mp ha).1 hname
  · rw [List.mem_singleton.mp ha] at hname
    exact absurd (congrArg Prod.fst hname).symm hx

theorem asleep_setTimer (hs : s.Timed) {entry : Entry} (he : s.entry? e = some entry)
    (settings : Settings) :
    (s.setTimer settings e).Asleep e (s.now + settings.debounceMs.toNat) := by
  intro k hk
  rw [timer?_setTimer he, if_pos rfl] at hk
  obtain rfl := Option.some.inj hk
  have hrings := ringsAt_setTimer hs settings e
  exact ⟨fun a ha hname => Nat.le_of_eq (hrings.alarms a ha hname).symm, hrings.rung⟩

/-- Since some time, before which the timers `old` were set, an editor sleeps for the quiet period
each time that a timer is set for it. -/
structure Rests (quiet : Nat) (e : EditorId) (old : List TimerName) (time : Nat) (s : Session) :
    Prop where
  now : time ≤ s.now
  asleep : ∀ k, (e, k) ∈ s.timersSet → (e, k) ∉ old → s.Asleep e (time + quiet)

theorem rests_kept (v : Service) (H : Host → Prop) (e : EditorId) (old : List TimerName)
    (time : Nat) :
    Kept v H [] fun s => s.timersSet.length < 2 ^ 64 →
      s.Timed ∧ s.Rests v.settings.debounceMs.toNat e old time := by
  refine kept_of_timed (fun _ h hq => ?_) fun {s x entry} hs he hq => ?_
  · refine ⟨Nat.le_trans hq.now h.now, fun k hk hnot => ?_⟩
    rw [h.timersSet] at hk
    exact (hq.asleep k hk hnot).drops h
  · refine ⟨hq.now, fun k hk hnot => ?_⟩
    by_cases hx : e = x
    · subst hx
      intro k' hk'
      obtain ⟨halarms, hrung⟩ := asleep_setTimer hs he v.settings k' hk'
      have hle := Nat.add_le_add_right hq.now v.settings.debounceMs.toNat
      exact ⟨fun a ha hname => Nat.le_trans hle (halarms a ha hname),
        fun hmem => Nat.le_trans hle (hrung hmem)⟩
    · rw [timersSet_setTimer, List.mem_append] at hk
      refine (hq.asleep k (hk.resolve_right fun heq => ?_) hnot).setTimer hx he v.settings
      exact hx (congrArg Prod.fst (List.mem_singleton.mp heq))

/-! ## Along a course -/

/-- The timers are in order: only idle editors wait for one, each of these has one source, and only
timers that are waited for are left to ring. -/
structure TimersPunctual (s : Session) : Prop where
  calm : ∀ e entry, s.entry? e = some entry →
    ¬ (entry.isRunning = true ∧ entry.timer.isSome = true)
  source : ∀ e entry k, s.entry? e = some entry → entry.timer = some k →
    s.sources.count (e, k) = 1
  armed : ∀ a ∈ s.alarms, ∃ entry, s.entry? a.editor = some entry ∧ entry.timer = some a.token

theorem Timed.timersPunctual (h : s.Timed) (hcalm : ∀ e, s.Calm e) : s.TimersPunctual where
  calm e entry he := by
    rintro ⟨hr, ht⟩
    rw [hcalm e entry he hr] at ht
    cases ht
  source e entry k he hk :=
    List.count_eq_one_of_mem h.nodup (h.source e k ((timer?_of_entry he).trans hk))
  armed a ha := Option.bind_eq_some_iff.mp (h.owned a ha)

/-- When the timer that an editor waits for has rung, none was set for it within the quiet period
before. -/
theorem now_add_debounce_le (v : Service) (host : Host) (before after : List Scene.Move)
    (hb : ((Scene.opening v host).play (before ++ after)).session.timersSet.length < 2 ^ 64)
    (hk : ((Scene.opening v host).play (before ++ after)).session.timer? e = some k)
    (hrung : (e, k) ∈ ((Scene.opening v host).play (before ++ after)).session.rung)
    {k' : TimerToken} (hold : (e, k') ∉ ((Scene.opening v host).play before).session.timersSet)
    (hset : (e, k') ∈ ((Scene.opening v host).play (before ++ after)).session.timersSet) :
    ((Scene.opening v host).play before).session.now + v.settings.debounceMs.toNat ≤
      ((Scene.opening v host).play (before ++ after)).session.now := by
  rw [Scene.play_append] at hb hk hrung hset ⊢
  have hbefore := timed_play v host before <|
    Nat.lt_of_le_of_lt (prefix_timersSet_play _ after).length_le hb
  have hrests := (rests_kept ((Scene.opening v host).play before).service (fun _ => True) e
    ((Scene.opening v host).play before).session.timersSet
    ((Scene.opening v host).play before).session.now).play trivial
      (fun _ => ⟨hbefore, Nat.le_refl _, fun _ hk hnot => absurd hk hnot⟩)
      (fun m _ => m.within_true) (by simp) hb
  rw [Scene.service_play] at hrests
  exact (hrests.2.asleep k' hset hold k hk).2 hrung

/-- A request that is put off sets a timer. -/
theorem exists_timer_of_request (v : Service) (host : Host) (before after : List Scene.Move)
    {debounce : Bool}
    (hb : ((Scene.opening v host).play (before ++ .call (.request e debounce) :: after)
      ).session.timersSet.length < 2 ^ 64)
    (hd : ((Scene.opening v host).play before).isDisposed = false)
    (hr : (v.request ((Scene.opening v host).play before).host e debounce
      ((Scene.opening v host).play before).session).2 = .debounced) :
    ∃ k', (e, k') ∉ ((Scene.opening v host).play before).session.timersSet ∧
      (e, k') ∈ ((Scene.opening v host).play (before ++ .call (.request e debounce) :: after)
        ).session.timersSet := by
  have hbefore := timed_play v host before <| by
    rw [Scene.play_append] at hb
    exact Nat.lt_of_le_of_lt (prefix_timersSet_play _ _).length_le hb
  refine ⟨_, fun hmem => hbefore.ne_next hmem rfl, ?_⟩
  rw [Scene.play_append_cons]
  refine (prefix_timersSet_play _ after).subset ?_
  rw [Scene.play_concat, Scene.session_perform_call, hd, Scene.service_play]
  change _ ∈ (v.request ((Scene.opening v host).play before).host e debounce _).1.timersSet
  rw [Service.timersSet_request, if_pos hr]
  exact List.mem_concat_self

/-- Along every course the timers are in order. An event of a timer that its editor does not wait
for any more stays without effect until it is handled. A run that starts with the event of a timer
is one of its editor, which is on screen. Within the quiet period before, no timer was set for the
editor, and no request for it was put off. -/
theorem timers_punctual (v : Service) (host : Host) (moves : List Scene.Move)
    (hb : ((Scene.opening v host).play moves).session.timersSet.length < 2 ^ 64) :
    ((Scene.opening v host).play moves).session.TimersPunctual ∧
      (∀ before after e k rest (host' : Host), moves = before ++ after →
        (e, k) ∈ ((Scene.opening v host).play before).session.rung →
        ((Scene.opening v host).play before).session.timer? e ≠ some k →
        ((Scene.opening v host).play moves).session.queue = .timerFired e k :: rest →
        ∃ event, event.isAside = true ∧
          v.handleNext host' ((Scene.opening v host).play moves).session =
            ((Scene.opening v host).play moves).session.pop.note event) ∧
      ∀ e k rest r (host' : Host),
        ((Scene.opening v host).play moves).session.queue = .timerFired e k :: rest →
        r ∉ ((Scene.opening v host).play moves).session.ledger.started →
        r ∈ (v.handleNext host' ((Scene.opening v host).play moves).session).ledger.started →
        r.1 = e ∧ e ∈ host'.visible ∧
          (∀ before after k', moves = before ++ after →
            (e, k') ∉ ((Scene.opening v host).play before).session.timersSet →
            (e, k') ∈ ((Scene.opening v host).play moves).session.timersSet →
            ((Scene.opening v host).play before).session.now + v.settings.debounceMs.toNat ≤
              ((Scene.opening v host).play moves).session.now) ∧
          ∀ before debounce after, moves = before ++ .call (.request e debounce) :: after →
            ((Scene.opening v host).play before).isDisposed = false →
            (v.request ((Scene.opening v host).play before).host e debounce
              ((Scene.opening v host).play before).session).2 = .debounced →
            ((Scene.opening v host).play before).session.now + v.settings.debounceMs.toNat ≤
              ((Scene.opening v host).play moves).session.now := by
  have htimed := timed_play v host moves hb
  refine ⟨htimed.timersPunctual fun e => ?_, ?_, ?_⟩
  · exact (calm_kept v (fun _ => True) e).play (c := .opening v host) trivial
      (fun _ he => by simp [Scene.opening] at he) (fun m _ => m.within_true) (by simp)
  · rintro before after e k rest host' rfl hmem hk hq
    rw [Scene.play_append] at hb hq ⊢
    have hbefore := timed_play v host before <|
      Nat.lt_of_le_of_lt (prefix_timersSet_play _ after).length_le hb
    have hovertaken := (overtaken_kept ((Scene.opening v host).play before).service
      (fun _ => True) (e, k)).play trivial
        (fun _ => ⟨hbefore, hbefore.set _ (List.mem_append_right _ hmem), hk⟩)
        (fun m _ => m.within_true) (by simp) hb
    exact handleNext_of_timer?_ne v host' hq hovertaken.2.2
  · intro e k rest r host' hq hnot hr
    obtain ⟨hre, hvisible, hk⟩ := heard_of_started hq hnot hr
    have hrung : (e, k) ∈ ((Scene.opening v host).play moves).session.rung := by
      rw [rung_of_timerFired hq]
      exact List.mem_cons_self
    refine ⟨hre, hvisible, ?_, ?_⟩
    · rintro before after k' rfl hold hset
      exact now_add_debounce_le v host before after hb hk hrung hold hset
    · rintro before debounce after rfl hd hanswer
      obtain ⟨k', hold, hset⟩ := exists_timer_of_request v host before after hb hd hanswer
      exact now_add_debounce_le v host before _ hb hk hrung hold hset

/-- The text changes twice, the second time just after the first timer has rung. Nothing comes of
the first timer, and the second one starts a run after its own quiet period. -/
theorem timers_punctual_of_edits :
    let first : List Scene.Move := [.call .activate, .finish ⟨1⟩ (.ok []), .call .handleNext,
      .call (.textChanged .script), .pass 1000, .ring ⟨0⟩]
    let edit : Scene.Move := .call (.textChanged .script)
    let last : List Scene.Move := [.call .handleNext, .pass 1000, .ring ⟨1⟩]
    let v := Service.ofSettings .default
    let host := Host.script "let"
    let c := Scene.opening v host
    let s := (c.play (first ++ [edit])).session
    let s' := (c.play (first ++ edit :: last)).session
    (∃ event, event.isAside = true ∧ v.handleNext host s = s.pop.note event) ∧
      s'.TimersPunctual ∧ (⟨0⟩, ⟨2⟩) ∈ (v.handleNext host s').ledger.started ∧
      (c.play first).session.now + v.settings.debounceMs.toNat ≤ s'.now := by
  intro first edit last v host c s s'
  have hstale := timers_punctual v host (first ++ [edit]) (by decide +kernel)
  have hstart := timers_punctual v host (first ++ edit :: last) (by decide +kernel)
  have hr : (⟨0⟩, ⟨2⟩) ∈ (v.handleNext host s').ledger.started := by decide +kernel
  have hq : s.queue = [.timerFired ⟨0⟩ ⟨0⟩] := queue_of_rung (by decide +kernel) (by decide +kernel)
  have hq' : s'.queue = [.timerFired ⟨0⟩ ⟨1⟩] :=
    queue_of_rung (by decide +kernel) (by decide +kernel)
  refine ⟨hstale.2.1 (first ++ [edit]) [] ⟨0⟩ ⟨0⟩ [] host (List.append_nil _).symm
    (by decide +kernel) (by decide +kernel) hq, hstart.1, hr, ?_⟩
  exact (hstart.2.2 ⟨0⟩ ⟨1⟩ [] (⟨0⟩, ⟨2⟩) host hq' (by decide +kernel) hr).2.2.1 first
    (edit :: last) ⟨1⟩ rfl (by decide +kernel) (by decide +kernel)

end Session

end Gutter
