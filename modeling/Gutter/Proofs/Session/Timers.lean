import Gutter.Proofs.Session.Kept
import Mathlib.Algebra.Group.Nat.Defs
import Mathlib.Data.List.Nodup
import Mathlib.Data.List.Perm.Subperm

/-!
# The books on timers

Every timer has a token of its own. The timer that an editor waits for has either not rung, or its
event is in the queue. The event of a timer that nobody waits for any more may be in the queue as
well, but no such timer is left to ring. Setting a timer apart, a session can only drop timers.
-/

namespace Gutter

abbrev TimerName := EditorId × TimerToken

def Log.Event.set? : Log.Event → Option TimerName
  | .debounce e token _ => some (e, token)
  | _ => none

def Event.timer? : Event → Option TimerName
  | .timerFired e token => some (e, token)
  | .runDone .. => none

def Alarm.name (a : Alarm) : TimerName := (a.editor, a.token)

namespace Session

variable {s s' : Session} {e x : EditorId} {k : TimerToken} {rest : List Event}

def timer? (s : Session) (e : EditorId) : Option TimerToken := (s.entry? e).bind Entry.timer

/-- All timers so far, in the order in which they were set. -/
def timersSet (s : Session) : List TimerName := s.record.filterMap Log.Event.set?

/-- The timers that have rung and whose events are in the queue. -/
def rung (s : Session) : List TimerName := s.queue.filterMap Event.timer?

/-- All that can wake an editor: the timers that have not rung, and the events of those that
have. -/
def sources (s : Session) : List TimerName := s.alarms.map Alarm.name ++ s.rung

theorem timer?_of_entry {entry : Entry} (he : s.entry? e = some entry) :
    s.timer? e = entry.timer := by
  rw [timer?, he]
  rfl

/-! ## The books in order -/

/-- The books on timers are in order: they are numbered from zero on, an editor that waits for one
is woken by it, and no others are left to ring. -/
structure Timed (s : Session) : Prop where
  numbered : s.timersSet.map (fun t => t.2.number.toNat) = List.range s.timersSet.length
  next : s.nextTimer.number.toNat = s.timersSet.length
  set : ∀ t ∈ s.sources, t ∈ s.timersSet
  nodup : s.sources.Nodup
  source : ∀ e k, s.timer? e = some k → (e, k) ∈ s.sources
  owned : ∀ a ∈ s.alarms, s.timer? a.editor = some a.token

theorem timed_initial : initial.Timed :=
  ⟨rfl, rfl, by simp [sources, rung, initial], List.nodup_nil, by simp [timer?], by simp [initial]⟩

namespace Timed

variable {t t' : TimerName} {tokens : List TimerToken}

theorem eq_of_token_eq (h : s.Timed) (ht : t ∈ s.timersSet) (ht' : t' ∈ s.timersSet)
    (hk : t.2 = t'.2) : t = t' := by
  have hnodup : (s.timersSet.map fun t => t.2.number.toNat).Nodup := by
    rw [h.numbered]
    exact List.nodup_range
  exact List.inj_on_of_nodup_map hnodup ht ht' (by rw [hk])

theorem ne_next (h : s.Timed) (ht : t ∈ s.timersSet) : t.2 ≠ s.nextTimer := by
  intro he
  have hmem : t.2.number.toNat ∈ s.timersSet.map fun t => t.2.number.toNat :=
    List.mem_map_of_mem ht
  rw [h.numbered, List.mem_range, he, h.next] at hmem
  exact Nat.lt_irrefl _ hmem

theorem eq_of_timer?_eq (h : s.Timed) (hx : s.timer? x = some k) (he : s.timer? e = some k) :
    x = e :=
  congrArg Prod.fst <|
    h.eq_of_token_eq (h.set _ (h.source x k hx)) (h.set _ (h.source e k he)) rfl

/-- Stopping timers of other editors leaves the timer that an editor waits for. -/
theorem mem_disarmed (h : s.Timed) (hk : s.timer? e = some k)
    (htokens : ∀ k' ∈ tokens, ∃ x, x ≠ e ∧ s.timer? x = some k')
    (hmem : (e, k) ∈ s.alarms.map Alarm.name) :
    (e, k) ∈ (s.alarms.filter (fun a => a.token ∉ tokens)).map Alarm.name := by
  obtain ⟨a, ha, hname⟩ := List.mem_map.mp hmem
  refine List.mem_map.mpr ⟨a, List.mem_filter.mpr ⟨ha, ?_⟩, hname⟩
  rw [decide_eq_true_eq]
  intro hgone
  obtain ⟨x, hx, hxk⟩ := htokens _ hgone
  have hak : a.token = k := congrArg Prod.snd hname
  exact hx (h.eq_of_timer?_eq (hak ▸ hxk) hk)

end Timed

/-! ## Steps that set no timer -/

/-- What a step can do that sets no timer: editors stop waiting for their timers, timers are stopped
or ring, and the events of timers are taken off the queue. -/
structure Drops (s s' : Session) : Prop where
  record : ∃ news, s'.record = s.record ++ news ∧ ∀ event ∈ news, event.set? = none
  next : s'.nextTimer = s.nextTimer
  now : s.now ≤ s'.now
  timer : ∀ e k, s'.timer? e = some k → s.timer? e = some k
  alarms : ∀ a ∈ s'.alarms, a ∈ s.alarms
  rung : ∀ t ∈ s'.rung, t ∈ s.rung ∨ ∃ a ∈ s.alarms, a.name = t ∧ a.due ≤ s'.now
  sources : s.Timed → s'.sources.Subperm s.sources
  source : s.Timed → ∀ e k, s'.timer? e = some k → (e, k) ∈ s'.sources
  owned : s.Timed → ∀ a ∈ s'.alarms, s'.timer? a.editor = some a.token

theorem Drops.timersSet (h : s.Drops s') : s'.timersSet = s.timersSet := by
  obtain ⟨news, hr, hn⟩ := h.record
  rw [Session.timersSet, hr, List.filterMap_append, List.filterMap_eq_nil_iff.mpr hn,
    List.append_nil]
  rfl

theorem Timed.drops (hs : s.Timed) (h : s.Drops s') : s'.Timed where
  numbered := by rw [h.timersSet, hs.numbered]
  next := by rw [h.timersSet, h.next, hs.next]
  set t ht := by
    rw [h.timersSet]
    exact hs.set t ((h.sources hs).subset ht)
  nodup := by
    obtain ⟨left, hperm, hleft⟩ := h.sources hs
    exact hperm.nodup_iff.mp (hs.nodup.sublist hleft)
  source := h.source hs
  owned := h.owned hs

/-- Some editors stop waiting for their timers, which are stopped. -/
theorem drops_of_disarm (gone : EditorId → Bool) (tokens : List TimerToken)
    (halarms : s'.alarms = s.alarms.filter (fun a => a.token ∉ tokens))
    (htokens : ∀ k, k ∈ tokens ↔ ∃ x, gone x = true ∧ s.timer? x = some k)
    (htimer : ∀ x, s'.timer? x = if gone x then none else s.timer? x)
    (hrung : s'.rung.Sublist s.rung)
    (hleft : ∀ x k, s'.timer? x = some k → (x, k) ∈ s.rung → (x, k) ∈ s'.rung)
    (hnext : s'.nextTimer = s.nextTimer) (hnow : s.now ≤ s'.now)
    (hrecord : ∃ news, s'.record = s.record ++ news ∧ ∀ event ∈ news, event.set? = none) :
    s.Drops s' where
  record := hrecord
  next := hnext
  now := hnow
  timer x k hk := by
    rw [htimer] at hk
    split at hk
    · cases hk
    · exact hk
  alarms a ha := by
    rw [halarms] at ha
    exact (List.mem_filter.mp ha).1
  rung t ht := .inl (hrung.subset ht)
  sources _ := by
    have hstopped : (s'.alarms.map Alarm.name).Sublist (s.alarms.map Alarm.name) := by
      rw [halarms]
      exact List.filter_sublist.map _
    exact (hstopped.append hrung).subperm
  source hs x k hk := by
    have hx := htimer x
    rw [hk] at hx
    split at hx
    · cases hx
    · next hgone =>
      rcases List.mem_append.mp (hs.source x k hx.symm) with hmem | hmem
      · refine List.mem_append_left _ (halarms ▸ hs.mem_disarmed hx.symm (fun k' hk' => ?_) hmem)
        obtain ⟨y, hy, hyk⟩ := (htokens k').mp hk'
        refine ⟨y, ?_, hyk⟩
        rintro rfl
        exact hgone hy
      · exact List.mem_append_right _ (hleft x k hk hmem)
  owned hs a ha := by
    rw [halarms, List.mem_filter, decide_eq_true_eq] at ha
    have howned := hs.owned a ha.1
    rw [htimer, if_neg, howned]
    exact fun hgone => ha.2 ((htokens _).mpr ⟨_, hgone, howned⟩)

/-- No editor stops waiting, and at most the event of a timer is taken off the queue that nobody
waits for. -/
theorem drops_of_timer (halarms : s'.alarms = s.alarms) (htimer : ∀ x, s'.timer? x = s.timer? x)
    (hrung : s'.rung.Sublist s.rung)
    (hleft : ∀ x k, s.timer? x = some k → (x, k) ∈ s.rung → (x, k) ∈ s'.rung)
    (hnext : s'.nextTimer = s.nextTimer) (hnow : s.now ≤ s'.now)
    (hrecord : ∃ news, s'.record = s.record ++ news ∧ ∀ event ∈ news, event.set? = none) :
    s.Drops s' :=
  drops_of_disarm (fun _ => false) [] (by simpa using halarms) (by simp)
    (by simpa using htimer) hrung (fun x k hk => hleft x k (htimer x ▸ hk)) hnext hnow hrecord

theorem drops_of_rung (halarms : s'.alarms = s.alarms) (htimer : ∀ x, s'.timer? x = s.timer? x)
    (hrung : s'.rung = s.rung) (hnext : s'.nextTimer = s.nextTimer) (hnow : s.now ≤ s'.now)
    (hrecord : ∃ news, s'.record = s.record ++ news ∧ ∀ event ∈ news, event.set? = none) :
    s.Drops s' :=
  drops_of_timer halarms htimer (hrung ▸ List.Sublist.refl _) (fun _ _ _ hmem => hrung ▸ hmem)
    hnext hnow hrecord

theorem exists_news_of_record_eq (h : s'.record = s.record) :
    ∃ news, s'.record = s.record ++ news ∧ ∀ event ∈ news, event.set? = none :=
  ⟨[], by simpa using h, by simp⟩

theorem exists_news_note {event : Log.Event} (h : event.set? = none) (s : Session) :
    ∃ news, (s.note event).record = s.record ++ news ∧ ∀ event ∈ news, event.set? = none := by
  refine ⟨[event].filter (!·.isAside), List.filter_append .., fun x hx => ?_⟩
  rwa [List.mem_singleton.mp (List.mem_filter.mp hx).1]

theorem Alike.drops (h : s.Alike s') : s.Drops s' := by
  have htimer : ∀ t : Session, ∀ x, t.timer? x = (t.bare? x).bind Entry.timer := by
    intro t x
    rw [timer?, bare?]
    cases t.entry? x <;> rfl
  have hqueue : s'.queue = s.queue := congrArg Work.queue h.work
  have hnow : s'.now = s.now := congrArg Work.now h.work
  exact drops_of_rung (congrArg Work.alarms h.work) (fun x => by rw [htimer, htimer, h.bare])
    (congrArg (List.filterMap Event.timer?) hqueue) (congrArg Work.nextTimer h.work)
    (Nat.le_of_eq hnow.symm) (exists_news_of_record_eq (congrArg Work.record h.work))

theorem timer?_edit {f : Entry → Entry} (h : ∀ entry, (f entry).timer = entry.timer)
    (e : EditorId) (s : Session) (x : EditorId) :
    Session.timer? (s.edit e f) x = s.timer? x := by
  rw [timer?, timer?, entry?_edit]
  split
  · cases s.entry? x <;> simp [h]
  · rfl

theorem timer?_ensure (e : EditorId) (file : Path) (s : Session) (x : EditorId) :
    Session.timer? (s.ensure e file) x = s.timer? x := by
  rw [timer?, timer?, entry?_ensure]
  split
  · next hx =>
    subst hx
    cases s.entry? x <;> rfl
  · rfl

theorem drops_edit {f : Entry → Entry} (h : ∀ entry, (f entry).timer = entry.timer)
    (e : EditorId) (s : Session) : s.Drops (s.edit e f) :=
  drops_of_rung rfl (timer?_edit h e s) rfl rfl (Nat.le_refl _) (exists_news_of_record_eq rfl)

theorem drops_ensure (e : EditorId) (file : Path) (s : Session) : s.Drops (s.ensure e file) :=
  drops_of_rung rfl (timer?_ensure e file s) rfl rfl (Nat.le_refl _) (exists_news_of_record_eq rfl)

theorem drops_start (settings : Settings) (target : Target) (text : String) (s : Session) :
    s.Drops (s.start settings target text) := by
  refine drops_of_disarm (fun x => x = target.editor) (s.timer? target.editor).toList rfl
    (by simp) (fun x => ?_) (List.Sublist.refl _)
    (fun _ _ _ h => h) rfl (Nat.le_refl _) (exists_news_note rfl s)
  rw [timer?, entry?_start, timer?]
  by_cases hx : x = target.editor
  · rw [if_pos hx, if_pos (decide_eq_true hx)]
    cases s.entry? x <;> rfl
  · rw [if_neg hx, if_neg (by simpa using hx)]

theorem drops_close (keep : EditorId → Bool) (s : Session) : s.Drops (s.close keep) := by
  refine drops_of_disarm (fun x => !keep x)
    ((s.dropped keep).filterMap fun x => x.2.timer) rfl (fun k => ?_) (fun x => ?_)
    (List.Sublist.refl _) (fun _ _ _ h => h) rfl (Nat.le_refl _) (exists_news_of_record_eq rfl)
  · simp only [List.mem_filterMap, dropped, List.mem_filter, ← Table.get?_eq_some_iff, timer?,
      Option.bind_eq_some_iff, Prod.exists]
    constructor
    · rintro ⟨x, entry, ⟨he, hx⟩, hk⟩
      exact ⟨x, hx, entry, he, hk⟩
    · rintro ⟨x, hx, entry, he, hk⟩
      exact ⟨x, entry, ⟨he, hx⟩, hk⟩
  · rw [timer?, entry?_close, timer?]
    cases keep x <;> rfl

/-! ## Events -/

theorem rung_of_timerFired (hq : s.queue = .timerFired e k :: rest) :
    s.rung = (e, k) :: s.pop.rung := by
  rw [rung, rung, pop, hq]
  rfl

/-- The event of a timer is taken off the queue that nobody waits for. -/
theorem drops_pop (hq : s.queue = .timerFired e k :: rest) (hk : s.timer? e ≠ some k) :
    s.Drops s.pop := by
  refine drops_of_timer rfl (fun _ => rfl) ?_ (fun x k' hx hmem => ?_) rfl (Nat.le_refl _)
    (exists_news_of_record_eq rfl)
  · rw [rung_of_timerFired hq]
    exact List.sublist_cons_self _ _
  · rw [rung_of_timerFired hq] at hmem
    refine (List.mem_cons.mp hmem).resolve_left fun heq => ?_
    obtain ⟨rfl, rfl⟩ := Prod.mk.inj heq
    exact hk hx

/-- The event of a timer is taken off the queue, and its editor stops waiting. -/
theorem drops_takeTimer (hq : s.queue = .timerFired e k :: rest) (hk : s.timer? e = some k) :
    s.Drops (s.pop.takeTimer e k) := by
  have htimer : ∀ x, Session.timer? (s.pop.takeTimer e k) x =
      if decide (x = e) then none else s.timer? x := by
    intro x
    rw [timer?, takeTimer, entry?_edit, timer?]
    by_cases hx : x = e
    · rw [if_pos hx, if_pos (decide_eq_true hx)]
      cases Session.entry? (s.pop.disarm [k]) x <;> rfl
    · rw [if_neg hx, if_neg (by simpa using hx)]
      rfl
  refine drops_of_disarm (fun x => x = e) [k] rfl (fun k' => ?_) htimer ?_
    (fun x k' hx hmem => ?_) rfl (Nat.le_refl _) (exists_news_of_record_eq rfl)
  · simp only [List.mem_singleton, decide_eq_true_eq, exists_eq_left, hk, Option.some.injEq]
    exact eq_comm
  · rw [rung_of_timerFired hq]
    exact List.sublist_cons_self _ _
  · rw [rung_of_timerFired hq] at hmem
    refine (List.mem_cons.mp hmem).resolve_left fun heq => ?_
    rw [htimer, if_pos (decide_eq_true (Prod.mk.inj heq).1)] at hx
    cases hx

variable {generation : Generation} {result : Except Failure (List Record)}

theorem rung_pop_runDone (hq : s.queue = .runDone e generation result :: rest) :
    s.pop.rung = s.rung := by
  rw [rung, rung, pop, hq]
  rfl

theorem drops_disregard (hq : s.queue = .runDone e generation result :: rest)
    (reason : CompletionError) : s.Drops (s.pop.disregard reason) :=
  drops_of_rung rfl (fun _ => rfl) (rung_pop_runDone hq) rfl (Nat.le_refl _)
    (exists_news_note rfl _)

theorem drops_abandon (hq : s.queue = .runDone e generation result :: rest) (failure : Failure) :
    s.Drops (s.pop.abandon e failure) :=
  drops_of_rung rfl (timer?_edit (f := .fail) (fun _ => rfl) e s.pop) (rung_pop_runDone hq) rfl
    (Nat.le_refl _) (exists_news_note rfl _)

theorem drops_store (hq : s.queue = .runDone e generation result :: rest) (findings : Findings) :
    s.Drops (s.pop.store e generation findings) :=
  drops_of_rung rfl (timer?_edit (f := .commit findings) (fun _ => rfl) e s.pop)
    (rung_pop_runDone hq) rfl (Nat.le_refl _) (exists_news_note rfl s.pop)

/-! ## Time -/

theorem drops_pass (ms : Nat) (s : Session) : s.Drops (s.pass ms) :=
  drops_of_rung rfl (fun _ => rfl) rfl rfl (Nat.le_add_right _ _) (exists_news_of_record_eq rfl)

theorem drops_finish (generation : Generation) (result : Except Failure (List Record))
    (s : Session) : s.Drops (s.finish generation result) := by
  rcases finish_cases generation result s with h | ⟨run, -, h⟩ <;> rw [h]
  · exact (Alike.refl s).drops
  · exact drops_of_rung rfl (fun _ => rfl) (by simp [ended, rung, Event.timer?]) rfl
      (Nat.le_refl _) (exists_news_of_record_eq rfl)

theorem alarms_rang (a : Alarm) (s : Session) :
    (s.rang a).alarms = s.alarms.filter fun b => b.token ≠ a.token := by
  simp [rang, disarm]

theorem rung_rang (a : Alarm) (s : Session) : (s.rang a).rung = s.rung ++ [a.name] := by
  rw [rung, rang, List.filterMap_append]
  rfl

/-- A timer that rings leaves the timers that have not rung, and its event joins the queue. -/
theorem Timed.perm_sources_rang (hs : s.Timed) {a : Alarm} (ha : a ∈ s.alarms) :
    (s.rang a).sources.Perm s.sources := by
  have hnodup : (s.alarms.map Alarm.name).Nodup := (List.nodup_append.mp hs.nodup).1
  have hset : ∀ b ∈ s.alarms, b.name ∈ s.timersSet := fun b hb =>
    hs.set _ (List.mem_append_left _ (List.mem_map_of_mem hb))
  have htaken := perm_cons_filter_ne hnodup.of_map ha fun b hb (hk : b.token = a.token) =>
    List.inj_on_of_nodup_map hnodup hb ha (hs.eq_of_token_eq (hset b hb) (hset a ha) hk)
  have herase := (htaken.map Alarm.name).append_right s.rung
  refine List.Perm.trans ?_ herase.symm
  rw [sources, rung_rang, alarms_rang]
  exact (List.perm_append_comm.append_left _).trans List.perm_middle

theorem drops_rang {a : Alarm} (ha : a ∈ s.alarms) (hdue : a.due ≤ s.now) : s.Drops (s.rang a) where
  record := exists_news_of_record_eq rfl
  next := rfl
  now := Nat.le_refl _
  timer _ _ hk := hk
  alarms _ hb := (List.mem_filter.mp hb).1
  rung t ht := by
    rw [rung_rang] at ht
    refine (List.mem_append.mp ht).imp_right fun ht => ?_
    exact ⟨a, ha, (List.mem_singleton.mp ht).symm, hdue⟩
  sources hs := (hs.perm_sources_rang ha).subperm
  source hs e k hk := (hs.perm_sources_rang ha).mem_iff.mpr (hs.source e k hk)
  owned hs b hb := hs.owned b (List.mem_filter.mp hb).1

theorem drops_ring (token : TimerToken) (s : Session) : s.Drops (s.ring token) := by
  rcases ring_cases token s with h | ⟨a, ha, hdue, h⟩ <;> rw [h]
  · exact (Alike.refl s).drops
  · exact drops_rang ha hdue

/-! ## Setting a timer -/

theorem timer?_setTimer {entry : Entry} (he : s.entry? e = some entry) (settings : Settings)
    (x : EditorId) :
    Session.timer? (s.setTimer settings e) x = if x = e then some s.nextTimer else s.timer? x := by
  rw [timer?, entry?_setTimer, timer?]
  split
  · next hx => rw [hx, he]; rfl
  · rfl

theorem timersSet_setTimer (settings : Settings) (e : EditorId) (s : Session) :
    (s.setTimer settings e).timersSet = s.timersSet ++ [(e, s.nextTimer)] := by
  have hrecord : (s.setTimer settings e).record =
      s.record ++ [.debounce e s.nextTimer (s.timer? e).isSome] := List.filter_append ..
  rw [timersSet, hrecord, List.filterMap_append]
  rfl

theorem alarms_setTimer (settings : Settings) (e : EditorId) (s : Session) :
    (s.setTimer settings e).alarms =
      s.alarms.filter (fun a => a.token ∉ (s.timer? e).toList) ++
        [⟨s.nextTimer, e, s.now + settings.debounceMs.toNat⟩] := rfl

theorem Timed.setTimer (h : s.Timed) {entry : Entry} (he : s.entry? e = some entry)
    (hb : s.timersSet.length + 1 < 2 ^ 64) (settings : Settings) :
    (s.setTimer settings e).Timed := by
  have hnext : s.nextTimer.next.number.toNat = s.timersSet.length + 1 := by
    have hn := h.next
    simp only [TimerToken.next, UInt64.toNat_add, UInt64.toNat_one]
    omega
  have htimer := timer?_setTimer he settings
  have hset := timersSet_setTimer settings e s
  have halarms := alarms_setTimer settings e s
  generalize hkept : s.alarms.filter (fun a => a.token ∉ (s.timer? e).toList) = kept at halarms
  have hstopped : (kept.map Alarm.name ++ s.rung).Sublist s.sources := by
    rw [← hkept]
    exact (List.filter_sublist.map _).append (List.Sublist.refl _)
  have hperm : (s.setTimer settings e).sources.Perm
      ((e, s.nextTimer) :: (kept.map Alarm.name ++ s.rung)) := by
    rw [sources, halarms, List.map_append, List.append_assoc]
    exact List.perm_middle
  refine ⟨?_, ?_, fun t ht => ?_, ?_, fun x k hk => ?_, fun a ha => ?_⟩
  · rw [hset, List.map_append, h.numbered, List.length_append, List.length_singleton,
      List.range_succ, List.map_singleton, h.next]
  · rw [hset, List.length_append]
    exact hnext
  · rw [hset]
    rcases List.mem_cons.mp (hperm.mem_iff.mp ht) with rfl | ht
    · exact List.mem_concat_self
    · exact List.mem_append_left _ (h.set t (hstopped.subset ht))
  · refine hperm.nodup_iff.mpr (List.nodup_cons.mpr ⟨fun hmem => ?_, h.nodup.sublist hstopped⟩)
    exact h.ne_next (h.set _ (hstopped.subset hmem)) rfl
  · rw [hperm.mem_iff]
    rw [htimer] at hk
    split at hk
    · next hx =>
      obtain rfl := Option.some.inj hk
      exact List.mem_cons.mpr (.inl (by rw [hx]))
    · next hx =>
      refine List.mem_cons_of_mem _ (List.mem_append.mpr ?_)
      refine (List.mem_append.mp (h.source x k hk)).imp_left fun hmem => ?_
      rw [← hkept]
      exact h.mem_disarmed hk
        (fun k' hk' => ⟨e, fun heq => hx heq.symm, by simpa using hk'⟩) hmem
  · rw [halarms] at ha
    rw [htimer]
    rcases List.mem_append.mp ha with ha | ha
    · rw [← hkept, List.mem_filter, decide_eq_true_eq] at ha
      have howned := h.owned a ha.1
      rw [if_neg, howned]
      intro hae
      exact ha.2 (by rw [← hae, howned]; exact List.mem_singleton_self _)
    · obtain rfl := List.mem_singleton.mp ha
      exact if_pos rfl

/-! ## Along a course -/

/-- What is kept whatever happens to the timers is kept along every course. -/
theorem kept_of_timers {v : Service} {H : Host → Prop} {lasting : List EditorId}
    {P : Session → Prop} (drop : ∀ {s s'}, s.Drops s' → P s → P s')
    (set : ∀ {s e entry}, s.entry? e = some entry → P s → P (s.setTimer v.settings e)) :
    Kept v H lasting P := by
  have hdeed : ∀ {host s s'}, H host → Deed v host s s' → P s → P s' := by
    intro host s s' _ hd hs
    cases hd.onChecks with
    | alike ha => exact drop ha.drops hs
    | soil x => exact drop (drops_edit (f := .soil) (fun _ => rfl) x s) hs
    | meet => exact drop (drops_ensure _ _ s) hs
    | setTimer he => exact set he hs
    | start => exact drop (drops_start _ _ _ s) hs
  have hevents : KeptByEvents v H P :=
    { deed := hdeed
      ignore := by
        intro s e token rest hq ht
        refine drop (drops_pop hq fun hk => ?_)
        obtain ⟨entry, he, hk⟩ := Option.bind_eq_some_iff.mp hk
        exact ht entry he hk
      takeTimer := fun hq he ht =>
        drop (drops_takeTimer hq ((timer?_of_entry he).trans ht))
      disregard := fun reason hq _ => drop (drops_disregard hq reason)
      abandon := fun hq _ => drop (drops_abandon hq _)
      store := fun _ hq _ hs =>
        drop (alike_render _ _ _ _).drops (drop (drops_store hq _) hs) }
  exact
    { deed := hdeed
      handleNext := hevents.handleNext
      close := fun _ => drop (drops_close _ _)
      refocus := fun e _ => drop (alike_refocus _ _ e _).drops
      blank := drop (alike_draw _ _).drops
      pass := fun ms => drop (drops_pass ms _)
      ring := fun token => drop (drops_ring token _)
      finish := fun generation result => drop (drops_finish generation result _) }

/-- While the books are in order, a property is kept if it is kept whatever happens to them. -/
theorem kept_of_timed {v : Service} {H : Host → Prop} {lasting : List EditorId}
    {Q : Session → Prop} (drop : ∀ {s s'}, s.Timed → s.Drops s' → Q s → Q s')
    (set : ∀ {s e entry}, s.Timed → s.entry? e = some entry → Q s →
      Q (s.setTimer v.settings e)) :
    Kept v H lasting fun s => s.timersSet.length < 2 ^ 64 → s.Timed ∧ Q s := by
  refine kept_of_timers ?_ ?_
  · intro s s' h hs hb
    obtain ⟨ht, hq⟩ := hs (h.timersSet ▸ hb)
    exact ⟨ht.drops h, drop ht h hq⟩
  · intro s e entry he hs hb
    rw [timersSet_setTimer, List.length_append, List.length_singleton] at hb
    obtain ⟨ht, hq⟩ := hs (by omega)
    exact ⟨ht.setTimer he hb v.settings, set ht he hq⟩

theorem timed_kept (v : Service) (H : Host → Prop) :
    Kept v H [] fun s => s.timersSet.length < 2 ^ 64 → s.Timed := by
  refine kept_of_timers (fun h hs hb => (hs (h.timersSet ▸ hb)).drops h) fun he hs hb => ?_
  rw [timersSet_setTimer, List.length_append, List.length_singleton] at hb
  exact (hs (by omega)).setTimer he hb v.settings

theorem Timed.play {c : Scene} (h : c.session.Timed) (moves : List Scene.Move)
    (hb : (c.play moves).session.timersSet.length < 2 ^ 64) : (c.play moves).session.Timed :=
  (timed_kept c.service fun _ => True).play trivial (fun _ => h) (fun m _ => m.within_true)
    (by simp) hb

theorem timed_play (v : Service) (host : Host) (moves : List Scene.Move)
    (hb : ((Scene.opening v host).play moves).session.timersSet.length < 2 ^ 64) :
    ((Scene.opening v host).play moves).session.Timed :=
  Timed.play (c := .opening v host) timed_initial moves hb

theorem prefix_timersSet_kept (v : Service) (H : Host → Prop) (old : List TimerName) :
    Kept v H [] fun s => old <+: s.timersSet :=
  kept_of_timers (fun h hs => h.timersSet ▸ hs) fun _ hs => by
    rw [timersSet_setTimer]
    exact hs.trans (List.prefix_append _ _)

theorem prefix_timersSet_play (c : Scene) (moves : List Scene.Move) :
    c.session.timersSet <+: (c.play moves).session.timersSet :=
  (prefix_timersSet_kept c.service (fun _ => True) _).play trivial (List.prefix_refl _)
    (fun m _ => m.within_true) (by simp)

end Session

end Gutter
