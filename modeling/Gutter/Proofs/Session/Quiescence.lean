import Gutter.Proofs.Session.Quiet
import Gutter.Proofs.Session.Runs
import Mathlib.Algebra.BigOperators.Group.Finset.Basic

/-!
# Coming to rest

Handling an event can set a timer, the timer can start a run, and the run can set a timer again. But
each of these is paid for by something that the editor has been waiting for, so when nothing else
happens the session comes to rest.
-/

namespace Gutter

/-! ## Sums over a finite map -/

namespace Table

variable {κ α β : Type} {t t' : Table κ α} {f : α → Nat}

def total (f : α → Nat) (t : Table κ α) : Nat := t.pairs.foldr (fun x n => f x.2 + n) 0

theorem total_add (f g : α → Nat) (t : Table κ α) :
    t.total (fun a => f a + g a) = t.total f + t.total g := by
  unfold total
  induction t.pairs with
  | nil => rfl
  | cons x pairs ih =>
      rw [List.foldr_cons, List.foldr_cons, List.foldr_cons, ih]
      exact Nat.add_add_add_comm ..

theorem total_le {n : Nat} (h : ∀ x ∈ t.pairs, f x.2 ≤ n) : t.total f ≤ n * t.size := by
  unfold total size
  generalize t.pairs = pairs at h
  induction pairs with
  | nil => exact Nat.le_refl 0
  | cons x pairs ih =>
      obtain ⟨hx, hpairs⟩ := List.forall_mem_cons.mp h
      have hle := ih hpairs
      rw [List.foldr_cons, List.length_cons, Nat.mul_succ]
      omega

theorem total_ite (p : α → Bool) (t : Table κ α) :
    t.total (fun a => if p a then 1 else 0) = (t.pairs.filter fun x => p x.2).length := by
  unfold total
  induction t.pairs with
  | nil => rfl
  | cons x pairs ih =>
      rw [List.foldr_cons, ih, List.filter_cons]
      cases hx : p x.2 <;> simp [hx, Nat.add_comm]

variable [DecidableEq κ]

theorem total_eq_sum (f : α → Nat) (keys : Finset κ) (h : ∀ k ∈ t.keys, k ∈ keys) :
    t.total f = ∑ k ∈ keys, (t.get? k).elim 0 f := by
  have hvalues : t.pairs.map (fun x => f x.2) = t.keys.map fun k => (t.get? k).elim 0 f := by
    rw [Table.keys, List.map_map]
    refine List.map_congr_left fun x hx => ?_
    rw [Function.comp_apply, get?_eq_some_iff.mpr hx]
    rfl
  have htotal : t.total f = (t.pairs.map fun x => f x.2).sum := List.foldr_map.symm
  rw [htotal, hvalues, ← List.sum_toFinset _ t.keys_nodup]
  refine Finset.sum_subset (fun k hk => h k (List.mem_toFinset.mp hk)) fun k _ hk => ?_
  rw [get?_eq_none_iff.mpr fun hmem => hk (List.mem_toFinset.mpr hmem)]
  rfl

/-- If the maps differ in the value of one key, so do the sums. -/
theorem total_add_eq (e : κ) (h : ∀ k, k ≠ e → (t'.get? k).elim 0 f = (t.get? k).elim 0 f) :
    t'.total f + (t.get? e).elim 0 f = t.total f + (t'.get? e).elim 0 f := by
  let keys : Finset κ := {e} ∪ (t.keys.toFinset ∪ t'.keys.toFinset)
  have he : e ∈ keys := by simp [keys]
  rw [total_eq_sum (t := t) f keys (by simp +contextual [keys]),
    total_eq_sum (t := t') f keys (by simp +contextual [keys]),
    ← Finset.add_sum_erase keys _ he, ← Finset.add_sum_erase keys _ he]
  have hrest := Finset.sum_congr (rfl : keys.erase e = keys.erase e)
    fun k hk => h k (Finset.ne_of_mem_erase hk)
  omega

/-- Different values of one kind belong to different keys. -/
theorem length_le_total {p : α → Option β} {l : List (κ × β)} (hn : l.Nodup)
    (hl : ∀ x ∈ l, (t.get? x.1).bind p = some x.2) :
    l.length ≤ t.total fun a => if (p a).isSome then 1 else 0 := by
  have hkeys : (l.map Prod.fst).Nodup := by
    refine List.Nodup.map_on (fun x hx y hy hxy => Prod.ext hxy ?_) hn
    have hvalue := hl x hx
    rw [hxy, hl y hy] at hvalue
    exact (Option.some.inj hvalue).symm
  rw [total_ite, ← List.length_map Prod.fst, ← List.length_map Prod.fst]
  refine (List.subperm_of_subset hkeys fun k hk => ?_).length_le
  obtain ⟨x, hx, rfl⟩ := List.mem_map.mp hk
  obtain ⟨a, ha, hp⟩ := Option.bind_eq_some_iff.mp (hl x hx)
  exact List.mem_map.mpr ⟨(x.1, a), List.mem_filter.mpr ⟨get?_eq_some_iff.mp ha, by simp [hp]⟩, rfl⟩

end Table

/-! ## What is left to be done -/

namespace Entry

/-- How many events can still follow from an editor, apart from that of the timer or of the run that
it waits for: a timer may start a run, and a run during which the text has changed may set a timer,
which may start another run. -/
def sequel (e : Entry) : Nat :=
  (if e.timer.isSome then 1 else 0) + if e.isRunning && e.needsCheck then 2 else 0

theorem sequel_setTimer (e : Entry) (timer : Option TimerToken) :
    (e.setTimer timer).sequel + (if e.timer.isSome then 1 else 0) =
      e.sequel + if timer.isSome then 1 else 0 := by
  have hset : (e.setTimer timer).sequel = (if timer.isSome then 1 else 0) +
      if e.isRunning && e.needsCheck then 2 else 0 := rfl
  rw [hset, sequel]
  omega

theorem sequel_commit (e : Entry) (findings : Findings) :
    (e.commit findings).sequel + (if e.isRunning && e.needsCheck then 2 else 0) = e.sequel := rfl

theorem sequel_fail (e : Entry) :
    e.fail.sequel + (if e.isRunning && e.needsCheck then 2 else 0) = e.sequel := rfl

def run? (e : Entry) : Option Generation := if e.isRunning then some e.generation else none

end Entry

namespace Session

variable {s s' s'' : Session} {e : EditorId} {entry : Entry} {event : Event} {rest : List Event}
  {v : Service} {host : Host} {settings : Settings} {a b c d : Nat}

def potential (s : Session) : Nat :=
  s.queue.length + s.alarms.length + s.runs.length + s.cache.total Entry.sequel

def births (s : Session) : Nat := s.timersSet.length + s.ledger.started.length

/-- The potential may rise by `work`, and at most so many timers are set and runs started. -/
structure Costs (work births : Nat) (s s' : Session) : Prop where
  potential : s'.potential ≤ s.potential + work
  births : s'.births ≤ s.births + births

theorem Costs.trans (h : s.Costs a b s') (h' : s'.Costs c d s'') : s.Costs (a + c) (b + d) s'' := by
  obtain ⟨hp, hb⟩ := h
  obtain ⟨hp', hb'⟩ := h'
  exact ⟨by omega, by omega⟩

theorem Costs.mono (h : s.Costs a b s') (ha : a ≤ c) (hb : b ≤ d) : s.Costs c d s' :=
  ⟨Nat.le_trans h.potential (Nat.add_le_add_left ha _),
    Nat.le_trans h.births (Nat.add_le_add_left hb _)⟩

theorem births_of_record_eq (h : s'.record = s.record) : s'.births = s.births := by
  have hstarted : ∀ t : Session, t.ledger.started = t.record.filterMap Log.Event.started? :=
    fun _ => rfl
  rw [births, births, timersSet, timersSet, hstarted, hstarted, h]

theorem births_note (event : Log.Event) (s : Session) :
    (s.note event).births =
      s.births + (event.set?.toList.length + event.started?.toList.length) := by
  have htimers : (s.note event).timersSet = s.timersSet ++ event.set?.toList := by
    have hrecord : (s.note event).record = s.record ++ [event].filter (!·.isAside) :=
      List.filter_append ..
    rw [timersSet, hrecord, List.filterMap_append]
    cases event <;> rfl
  rw [births, births, htimers, ledger_note, List.length_append, List.length_append]
  omega

def sequel (s : Session) (e : EditorId) : Nat := (s.entry? e).elim 0 Entry.sequel

theorem sequel_of_entry (he : s.entry? e = some entry) : s.sequel e = entry.sequel := by
  rw [sequel, he]
  rfl

theorem total_sequel_add (e : EditorId) (h : ∀ x, x ≠ e → s'.sequel x = s.sequel x) :
    s'.cache.total Entry.sequel + s.sequel e = s.cache.total Entry.sequel + s'.sequel e :=
  Table.total_add_eq e h

theorem total_sequel_congr (h : ∀ e, s'.sequel e = s.sequel e) :
    s'.cache.total Entry.sequel = s.cache.total Entry.sequel := by
  have hadd := total_sequel_add ⟨0⟩ fun e _ => h e
  rw [h] at hadd
  exact Nat.add_right_cancel hadd

theorem total_sequel_edit (he : s.entry? e = some entry) (f : Entry → Entry) :
    (s.edit e f).cache.total Entry.sequel + entry.sequel =
      s.cache.total Entry.sequel + (f entry).sequel := by
  have hothers : ∀ x, x ≠ e → Session.sequel (s.edit e f) x = s.sequel x := by
    intro x hx
    rw [sequel, entry?_edit_of_ne hx, ← sequel]
  have hadd := total_sequel_add e hothers
  have hself : Session.sequel (s.edit e f) e = (f entry).sequel :=
    sequel_of_entry (by rw [entry?_edit_self, he]; rfl)
  rwa [sequel_of_entry he, hself] at hadd

/-! ## Steps -/

theorem Alike.costs (h : s.Alike s') : s.Costs 0 0 s' where
  potential := by
    have hqueue : s'.queue = s.queue := congrArg Work.queue h.work
    have halarms : s'.alarms = s.alarms := congrArg Work.alarms h.work
    have hruns : s'.runs = s.runs := congrArg Work.runs h.work
    have hsequel : ∀ t : Session, ∀ e, t.sequel e = (t.bare? e).elim 0 Entry.sequel := by
      intro t e
      rw [sequel, bare?]
      cases t.entry? e <;> rfl
    have hsum : s'.cache.total Entry.sequel = s.cache.total Entry.sequel :=
      total_sequel_congr fun e => by rw [hsequel, hsequel, h.bare]
    rw [potential, potential, hqueue, halarms, hruns, hsum]
    exact Nat.le_refl _
  births := Nat.le_of_eq (births_of_record_eq (congrArg Work.record h.work))

theorem costs_ensure (e : EditorId) (file : Path) (s : Session) :
    s.Costs 0 0 (s.ensure e file) where
  potential := by
    have hsum : (s.ensure e file).cache.total Entry.sequel = s.cache.total Entry.sequel := by
      refine total_sequel_congr fun x => ?_
      rw [sequel, entry?_ensure, sequel]
      split
      · next hx =>
        subst hx
        cases s.entry? x <;> rfl
      · rfl
    rw [potential, potential, hsum]
    exact Nat.le_refl _
  births := Nat.le_of_eq (births_of_record_eq rfl)

theorem costs_setTimer (he : s.entry? e = some entry) (settings : Settings) :
    s.Costs 2 1 (s.setTimer settings e) where
  potential := by
    have hsum : (s.setTimer settings e).cache.total Entry.sequel + entry.sequel = _ :=
      total_sequel_edit he (.setTimer (some s.nextTimer))
    have hsequel := entry.sequel_setTimer (some s.nextTimer)
    simp only [Option.isSome_some, ite_true] at hsequel
    have halarms : (s.setTimer settings e).alarms.length ≤ s.alarms.length + 1 := by
      rw [alarms_setTimer, List.length_append]
      exact Nat.add_le_add_right (List.length_filter_le _ _) 1
    have hqueue : (s.setTimer settings e).queue = s.queue := rfl
    have hruns : (s.setTimer settings e).runs = s.runs := rfl
    rw [potential, potential, hqueue, hruns]
    omega
  births := Nat.le_of_eq (births_note _ _)

theorem costs_start {target : Target} (he : s.entry? target.editor = some entry)
    (settings : Settings) (text : String) :
    s.Costs 1 1 (s.start settings target text) where
  potential := by
    have hsum : (s.start settings target text).cache.total Entry.sequel + entry.sequel = _ :=
      total_sequel_edit he (.start s.clock.next)
    have hsequel : (entry.start s.clock.next).sequel = 0 := rfl
    have halarms : (s.start settings target text).alarms.length ≤ s.alarms.length :=
      List.length_filter_le _ _
    have hqueue : (s.start settings target text).queue = s.queue := rfl
    have hruns : (s.start settings target text).runs.length = s.runs.length + 1 :=
      List.length_append
    rw [potential, potential, hqueue, hruns]
    omega
  births := Nat.le_of_eq (births_note _ _)

/-- What a request costs. -/
theorem costs_request (v : Service) (host : Host) (e : EditorId) (debounce : Bool) (s : Session) :
    s.Costs (if debounce then 2 else 1) 1 (v.request host e debounce s).1 := by
  have h := Service.requested v host e debounce s
  generalize v.request host e debounce s = answer at h ⊢
  have hfree : ∀ {t}, s.Costs 0 0 t → s.Costs (if debounce then 2 else 1) 1 t :=
    fun h => h.mono (Nat.zero_le _) (Nat.zero_le _)
  cases h with
  | gone => exact hfree (Alike.refl s).costs
  | unsupported => exact hfree (alike_note rfl s).costs
  | busy => exact hfree ((costs_ensure e _ s).trans (alike_note rfl _).costs)
  | debounced _ _ he _ hd =>
      rw [if_pos hd]
      exact (costs_ensure e _ s).trans (costs_setTimer he _)
  | cached =>
      exact hfree ((costs_ensure e _ s).trans
        ((alike_note rfl _).trans (alike_render v.settings host e _)).costs)
  | started _ _ he _ hd =>
      rw [if_neg (by simp [hd])]
      exact (costs_ensure e _ s).trans (costs_start he _ _)

/-! ## Events -/

theorem potential_pop (hq : s.queue = event :: rest) : s.pop.potential + 1 = s.potential := by
  have hqueue : s.pop.queue.length + 1 = s.queue.length := by
    rw [pop, hq]
    rfl
  have hrest : s.pop.potential = s.pop.queue.length + s.alarms.length + s.runs.length +
      s.cache.total Entry.sequel := rfl
  rw [hrest, potential]
  omega

theorem potential_takeTimer {token : TimerToken} (he : s.entry? e = some entry)
    (ht : entry.timer = some token) : (s.takeTimer e token).potential + 1 ≤ s.potential := by
  have hsum : (s.takeTimer e token).cache.total Entry.sequel + entry.sequel = _ :=
    total_sequel_edit he (.setTimer none)
  have hsequel := entry.sequel_setTimer none
  rw [ht] at hsequel
  simp only [Option.isSome_some, Option.isSome_none, Bool.false_eq_true, ite_true,
    ite_false] at hsequel
  have halarms : (s.takeTimer e token).alarms.length ≤ s.alarms.length := List.length_filter_le _ _
  have hqueue : (s.takeTimer e token).queue = s.queue := rfl
  have hruns : (s.takeTimer e token).runs = s.runs := rfl
  rw [potential, potential, hqueue, hruns]
  omega

/-- If the text has changed during a run, the potential falls when its findings are stored. -/
theorem potential_store (he : s.entry? e = some entry) (hr : entry.isRunning = true)
    (generation : Generation) (findings : Findings) :
    (s.store e generation findings).potential + (if entry.needsCheck then 2 else 0) =
      s.potential := by
  have hsum : (s.store e generation findings).cache.total Entry.sequel + entry.sequel = _ :=
    total_sequel_edit he (.commit findings)
  have hsequel := entry.sequel_commit findings
  rw [hr, Bool.true_and] at hsequel
  have hrest : (s.store e generation findings).potential = s.queue.length + s.alarms.length +
      s.runs.length + (s.store e generation findings).cache.total Entry.sequel := rfl
  rw [hrest, potential]
  omega

theorem potential_abandon (he : s.entry? e = some entry) (failure : Failure) :
    (s.abandon e failure).potential ≤ s.potential := by
  have hsum : (s.abandon e failure).cache.total Entry.sequel + entry.sequel = _ :=
    total_sequel_edit he .fail
  have hsequel := entry.sequel_fail
  have hrest : (s.abandon e failure).potential = s.queue.length + s.alarms.length +
      s.runs.length + (s.abandon e failure).cache.total Entry.sequel := rfl
  rw [hrest, potential]
  omega

/-- An event is handled: the potential falls, and at most one timer is set or run started. -/
structure Spends (s s' : Session) : Prop where
  potential : s'.potential + 1 ≤ s.potential
  births : s'.births ≤ s.births + 1

theorem Costs.spends (h : s'.Costs a 1 s'') (hp : s'.potential + (a + 1) ≤ s.potential)
    (hb : s'.births = s.births) : s.Spends s'' := by
  obtain ⟨hp', hb'⟩ := h
  exact ⟨by omega, by omega⟩

theorem spends_handleNext (v : Service) (host : Host) (hq : s.queue ≠ []) :
    s.Spends (v.handleNext host s) := by
  have h := Service.handled v host s
  generalize v.handleNext host s = s' at h ⊢
  have hfree : ∀ {t t' : Session}, t.Alike t' → t.Costs 0 1 t' :=
    fun h => h.costs.mono (Nat.le_refl _) (Nat.zero_le _)
  cases h with
  | idle hq' => exact absurd hq' hq
  | orphaned hq' | superseded hq' =>
      exact (hfree (alike_note rfl _)).spends (Nat.le_of_eq (potential_pop hq')) rfl
  | unseen hq' he ht =>
      have hpop := potential_pop hq'
      have htake := potential_takeTimer (s := s.pop) he ht
      exact (hfree (.refl _)).spends (by omega) rfl
  | @heard e token _ _ hq' he ht =>
      have hpop := potential_pop hq'
      have htake := potential_takeTimer (s := s.pop) he ht
      have hcosts := costs_request v host e false (s.pop.takeTimer e token)
      rw [if_neg (by simp)] at hcosts
      exact hcosts.spends (by omega) rfl
  | evicted hq' | stale hq' =>
      exact (hfree (.refl _)).spends (Nat.le_of_eq (potential_pop hq'))
        (births_note (.completionStale _) _)
  | @failed e _ failure _ entry hq' he =>
      have hpop := potential_pop hq'
      have habandon := potential_abandon (s := s.pop) he failure
      exact (hfree (.refl _)).spends (by omega) (births_note (.runFailed _) _)
  | @stored e generation records _ entry hq' he hr hg hn =>
      have hpop := potential_pop hq'
      have hstore := potential_store (s := s.pop) he hr generation
        (.ofRecords records v.settings.severityLevel)
      rw [hn, if_neg (by simp)] at hstore
      exact (hfree (alike_render _ _ _ _)).spends (by omega) (births_note (.runDone ..) _)
  | @trailed e generation records _ entry hq' he hr hg hn =>
      have hpop := potential_pop hq'
      have hstore := potential_store (s := s.pop) he hr generation
        (.ofRecords records v.settings.severityLevel)
      rw [hn, if_pos rfl] at hstore
      have hdraw := ((alike_render v.settings host e _).trans (alike_note rfl _)).costs.trans
        (costs_request v host e true (((s.pop.store e generation
          (.ofRecords records v.settings.severityLevel)).render v.settings host e).note
            (.trailingCheck e)))
      exact hdraw.spends (by simp only [ite_true]; omega) (births_note (.runDone ..) _)

/-! ## What happens outside -/

theorem costs_pass (ms : Nat) (s : Session) : s.Costs 0 0 (s.pass ms) :=
  ⟨Nat.le_refl _, Nat.le_refl _⟩

/-- A timer that rings makes room for its event. -/
theorem costs_ring (token : TimerToken) (s : Session) : s.Costs 0 0 (s.ring token) := by
  rcases ring_cases token s with h | ⟨a, ha, -, h⟩ <;> rw [h]
  · exact (Alike.refl s).costs
  · refine ⟨?_, Nat.le_of_eq (births_of_record_eq rfl)⟩
    have halarms : (s.rang a).alarms.length < s.alarms.length :=
      List.length_filter_lt_length_iff_exists.mpr ⟨a, ha, by simp⟩
    have hqueue : (s.rang a).queue.length = s.queue.length + 1 := List.length_append
    have hrest : (s.rang a).potential = (s.rang a).queue.length + (s.rang a).alarms.length +
        s.runs.length + s.cache.total Entry.sequel := rfl
    rw [hrest, potential]
    omega

/-- A run that ends makes room for its event. -/
theorem costs_finish (generation : Generation) (result : Except Failure (List Record))
    (s : Session) : s.Costs 0 0 (s.finish generation result) := by
  rcases finish_cases generation result s with h | ⟨run, hrun, h⟩ <;> rw [h]
  · exact (Alike.refl s).costs
  · refine ⟨?_, Nat.le_of_eq (births_of_record_eq rfl)⟩
    have hruns : (s.ended run result).runs.length < s.runs.length :=
      List.length_filter_lt_length_iff_exists.mpr ⟨run, hrun, by simp⟩
    have hqueue : (s.ended run result).queue.length = s.queue.length + 1 := List.length_append
    have hrest : (s.ended run result).potential = (s.ended run result).queue.length +
        s.alarms.length + (s.ended run result).runs.length + s.cache.total Entry.sequel := rfl
    rw [hrest, potential]
    omega

/-! ## The bound -/

def run? (s : Session) (e : EditorId) : Option Generation := (s.entry? e).bind Entry.run?

/-- How many runs are outstanding that no editor waits for, and how many timers have rung that no
editor waits for. -/
def unmatched (s : Session) : Nat :=
  (s.ledger.outstanding.filter fun r => s.run? r.1 ≠ some r.2).length +
    (s.rung.filter fun t => s.timer? t.1 ≠ some t.2).length

/-- No editor is running, and none waits for a timer. -/
def Idle (s : Session) : Prop :=
  ∀ e entry, s.entry? e = some entry → entry.isRunning = false ∧ entry.timer = none

/-- An event is the end of a run, or a timer has rung. -/
theorem length_queue (s : Session) :
    s.queue.length = s.rung.length + (s.queue.filterMap Event.run?).length := by
  unfold rung
  induction s.queue with
  | nil => rfl
  | cons event queue ih =>
      rw [List.length_cons, ih]
      cases event with
      | timerFired => exact Nat.add_right_comm ..
      | runDone => rfl

theorem potential_eq (s : Session) :
    s.potential = s.sources.length + s.ledger.outstanding.length +
      s.cache.total Entry.sequel := by
  have hqueue := s.length_queue
  have hsources : s.sources.length = s.alarms.length + s.rung.length := by
    rw [sources, List.length_append, List.length_map]
  have houtstanding : s.ledger.outstanding.length =
      s.runs.length + (s.queue.filterMap Event.run?).length := by
    simp only [ledger, work, Work.ledger, List.length_append, List.length_map]
  rw [potential]
  omega

/-- An editor waits for a timer or for a run, and up to two events can follow. -/
theorem Calm.weight_le (h : s.Calm e) (he : s.entry? e = some entry) :
    (if entry.timer.isSome then 1 else 0) + (if entry.run?.isSome then 1 else 0) +
      entry.sequel ≤ 3 := by
  rw [Entry.sequel, Entry.run?]
  cases hr : entry.isRunning with
  | true =>
      rw [h entry he hr]
      cases entry.needsCheck <;> simp
  | false => cases entry.timer <;> simp

theorem potential_le (ht : s.Timed) (ha : s.Accounted) (hcalm : ∀ e, s.Calm e) :
    s.potential ≤ 3 * s.cache.size + s.unmatched := by
  have htimers : (s.sources.filter fun t => s.timer? t.1 = some t.2).length ≤
      s.cache.total fun entry => if entry.timer.isSome then 1 else 0 :=
    Table.length_le_total (ht.nodup.filter _) fun t hmem =>
      of_decide_eq_true (List.mem_filter.mp hmem).2
  have hruns : (s.ledger.outstanding.filter fun r => s.run? r.1 = some r.2).length ≤
      s.cache.total fun entry => if entry.run?.isSome then 1 else 0 :=
    Table.length_le_total (ha.sound.nodup.filter _) fun r hmem =>
      of_decide_eq_true (List.mem_filter.mp hmem).2
  have hrung : (s.sources.filter fun t => s.timer? t.1 ≠ some t.2) =
      s.rung.filter fun t => s.timer? t.1 ≠ some t.2 := by
    rw [sources, List.filter_append, List.filter_eq_nil_iff.mpr, List.nil_append]
    intro t hmem
    obtain ⟨a, halarm, rfl⟩ := List.mem_map.mp hmem
    have howned := ht.owned a halarm
    simp [Alarm.name, howned]
  have hentries : s.cache.total (fun entry => (if entry.timer.isSome then 1 else 0) +
      (if entry.run?.isSome then 1 else 0) + entry.sequel) ≤ 3 * s.cache.size :=
    Table.total_le fun x hx => (hcalm x.1).weight_le (Table.get?_eq_some_iff.mpr hx)
  rw [Table.total_add, Table.total_add] at hentries
  have hsources := List.length_eq_length_filter_add (l := s.sources)
    fun t => decide (s.timer? t.1 = some t.2)
  have houtstanding := List.length_eq_length_filter_add (l := s.ledger.outstanding)
    fun r => decide (s.run? r.1 = some r.2)
  rw [potential_eq, unmatched, ← hrung]
  simp only [ne_eq, decide_not]
  omega

end Session

namespace Scene

open Session

variable {c : Scene} {m : Move}

/-! ## Along a course -/

/-- The host makes no call, and its answers stay as they are: only timers, runs and their events are
delivered. -/
def Move.isDelivery : Move → Bool
  | .pass _ | .ring _ | .finish .. | .call .handleNext => true
  | _ => false

def handles (c : Scene) : Move → Bool
  | .call .handleNext => !c.isDisposed && !c.session.queue.isEmpty
  | _ => false

def handled (c : Scene) : List Move → Nat
  | [] => 0
  | m :: moves => (if c.handles m then 1 else 0) + (c.perform m).handled moves

/-- Nothing is left that the service could be told. -/
def Settled (c : Scene) : Prop :=
  c.isDisposed = false → c.session.queue = [] ∧ c.session.alarms = [] ∧ c.session.runs = []

/-- Each event that is handled lowers the potential, and nothing else raises it. -/
theorem spend_perform (hm : m.isDelivery = true) (c : Scene) :
    (c.perform m).session.potential + (if c.handles m then 1 else 0) ≤ c.session.potential ∧
      (c.perform m).session.births ≤ c.session.births + if c.handles m then 1 else 0 := by
  have hfree : ∀ {s : Session}, c.session.Costs 0 0 s →
      s.potential + 0 ≤ c.session.potential ∧ s.births ≤ c.session.births + 0 :=
    fun h => ⟨h.potential, h.births⟩
  cases m with
  | pass ms => exact hfree (costs_pass ms _)
  | ring token => exact hfree (costs_ring token _)
  | finish generation result => exact hfree (costs_finish generation result _)
  | call call =>
      cases call with
      | handleNext =>
          rw [session_perform_call, handles]
          by_cases hd : c.isDisposed = true
          · rw [if_pos hd, if_neg (by simp [hd])]
            exact hfree (Alike.refl _).costs
          · by_cases hq : c.session.queue = []
            · have hidle : c.service.handleNext c.host c.session = c.session := by
                rw [Service.handleNext, hq]
              rw [if_neg hd, if_neg (by simp [hq]), Call.run, hidle]
              exact hfree (Alike.refl _).costs
            · rw [if_neg hd, if_pos (by simp [hd, hq])]
              have hspends := spends_handleNext c.service c.host hq
              exact ⟨hspends.potential, hspends.births⟩
      | _ => cases hm
  | rearrange | dispose => cases hm

/-- The events that are handled are paid for. -/
theorem spend_play {moves : List Move} (h : ∀ m ∈ moves, m.isDelivery = true) (c : Scene) :
    (c.play moves).session.potential + c.handled moves ≤ c.session.potential ∧
      (c.play moves).session.births ≤ c.session.births + c.handled moves := by
  induction moves generalizing c with
  | nil => exact ⟨Nat.le_refl _, Nat.le_refl _⟩
  | cons m moves ih =>
      obtain ⟨hm, hmoves⟩ := List.forall_mem_cons.mp h
      obtain ⟨hpotential, hbirths⟩ := spend_perform hm c
      obtain ⟨hpotential', hbirths'⟩ := ih hmoves (c.perform m)
      rw [play_cons, handled]
      omega

/-! ## At rest -/

/-- Handling the queue that some deliveries have filled. -/
theorem handled_concat (moves : List Move) {c : Scene} (hd : (c.play moves).isDisposed = false)
    (hq : (c.play moves).session.queue ≠ []) : 0 < c.handled (moves ++ [.call .handleNext]) := by
  induction moves generalizing c with
  | nil =>
      have hhandles : c.handles (.call .handleNext) = true := by
        rw [play_nil] at hd hq
        simp [handles, hd, hq]
      rw [List.nil_append, handled, if_pos hhandles]
      exact Nat.add_pos_left Nat.one_pos _
  | cons m moves ih => exact Nat.add_pos_right _ (ih hd hq)

/-- As long as something is left to be delivered, an event can be made to be handled. -/
theorem exists_handled {c : Scene} (h : ¬ c.Settled) :
    ∃ moves : List Move, (∀ m ∈ moves, m.isDelivery = true) ∧ 0 < c.handled moves := by
  obtain ⟨hd, hleft⟩ := Classical.not_imp.mp h
  by_cases hq : c.session.queue = []
  · cases ha : c.session.alarms with
    | cons a alarms =>
        refine ⟨_, by simp [Move.isDelivery], handled_concat
          [.pass (a.due - c.session.now), .ring a.token] hd ?_⟩
        have hdue : a.due ≤ c.session.now + (a.due - c.session.now) := by omega
        simp [perform, Session.ring, Session.pass, Session.isDue, ha, hdue]
    | nil =>
        cases hr : c.session.runs with
        | cons run runs =>
            refine ⟨_, by simp [Move.isDelivery],
              handled_concat [.finish run.generation (.ok [])] hd ?_⟩
            simp [perform, Session.finish, hr]
        | nil => exact absurd ⟨hq, ha, hr⟩ hleft
  · exact ⟨_, by simp [Move.isDelivery], handled_concat [] hd hq⟩

/-- In the end nothing is left to be delivered. The induction is on the potential, which falls
with each event. -/
theorem exists_settled (c : Scene) :
    ∃ moves : List Move, (∀ m ∈ moves, m.isDelivery = true) ∧ (c.play moves).Settled := by
  by_cases h : c.Settled
  · exact ⟨[], by simp, h⟩
  · obtain ⟨first, hfirst, hpos⟩ := exists_handled h
    have hspend := (spend_play hfirst c).1
    obtain ⟨moves, hmoves, hsettled⟩ := exists_settled (c.play first)
    exact ⟨first ++ moves, List.forall_mem_append.mpr ⟨hfirst, hmoves⟩,
      (play_append c first moves).symm ▸ hsettled⟩
termination_by c.session.potential
decreasing_by omega

theorem idle_of_settled (v : Service) (host : Host) (moves : List Move)
    (hb : ((opening v host).play moves).session.births < 2 ^ 64)
    (h : ((opening v host).play moves).Settled) : ((opening v host).play moves).session.Idle := by
  intro e entry he
  rw [births] at hb
  have ht := timed_play v host moves (by omega)
  have ha := accounted_play v host moves (by omega)
  by_cases hd : ((opening v host).play moves).isDisposed = true
  · rw [entry?_of_isDisposed hd e] at he
    cases he
  · obtain ⟨hqueue, halarms, hruns⟩ := h (Bool.eq_false_of_not_eq_true hd)
    constructor
    · refine Bool.eq_false_iff.mpr fun hr => ?_
      have hmem := (ha.running e entry he).mp hr
      simp [ledger, work, Work.ledger, hqueue, hruns] at hmem
    · refine Option.eq_none_iff_forall_ne_some.mpr fun k hk => ?_
      have hmem := ht.source e k ((timer?_of_entry he).trans hk)
      simp [sources, rung, hqueue, halarms] at hmem

/-- When the host makes no call any more, then whatever is delivered in whatever order, at most
three events are handled for each editor that is remembered, apart from those that no editor waits
for. The deliveries can always be brought to an end, and then no editor is running, and none waits
for a timer. -/
theorem service_quiesces (v : Service) (host : Host) (before after : List Move)
    (hb : ((opening v host).play before).session.births +
      (3 * ((opening v host).play before).session.cache.size +
        ((opening v host).play before).session.unmatched) < 2 ^ 64)
    (hafter : ∀ m ∈ after, m.isDelivery = true) :
    ((opening v host).play before).handled after ≤
        3 * ((opening v host).play before).session.cache.size +
          ((opening v host).play before).session.unmatched ∧
      (((opening v host).play (before ++ after)).Settled →
        ((opening v host).play (before ++ after)).session.Idle) ∧
      ∃ more : List Move, (∀ m ∈ more, m.isDelivery = true) ∧
        ((opening v host).play (before ++ after ++ more)).Settled ∧
        ((opening v host).play (before ++ after ++ more)).session.Idle := by
  have hsum := hb
  rw [births] at hsum
  have hle := potential_le (timed_play v host before (by omega))
    (accounted_play v host before (by omega)) fun e =>
      (calm_kept v (fun _ => True) e).play (c := opening v host) trivial
        (fun _ he => by simp [opening] at he) (fun m _ => m.within_true) (by simp)
  have hborn : ∀ {moves : List Move}, (∀ m ∈ moves, m.isDelivery = true) →
      ((opening v host).play (before ++ moves)).session.births < 2 ^ 64 := by
    intro moves hmoves
    have hspend := spend_play hmoves ((opening v host).play before)
    rw [play_append]
    omega
  obtain ⟨more, hmore, hsettled⟩ := exists_settled ((opening v host).play (before ++ after))
  rw [← play_append] at hsettled
  refine ⟨?_, idle_of_settled v host _ (hborn hafter), more, hmore, hsettled, ?_⟩
  · have hspend := (spend_play hafter ((opening v host).play before)).1
    omega
  · refine idle_of_settled v host _ ?_ hsettled
    rw [List.append_assoc]
    exact hborn (List.forall_mem_append.mpr ⟨hafter, hmore⟩)

/-- The text changes while a run is under way: its end, the timer and the end of the run that
follows are all that is left, and the bound is met. -/
theorem service_quiesces_of_edit :
    let before : List Move := [.call .activate, .call (.textChanged .script)]
    let after : List Move := [.finish ⟨1⟩ (.ok []), .call .handleNext, .pass 1000, .ring ⟨0⟩,
      .call .handleNext, .finish ⟨2⟩ (.ok []), .call .handleNext]
    let c := (opening (Service.ofSettings .default) (.script "let")).play before
    c.session.cache.size = 1 ∧ c.session.unmatched = 0 ∧ c.handled after = 3 ∧
      c.handled after ≤ 3 * c.session.cache.size + c.session.unmatched ∧
      (c.play after).session.Idle := by
  intro before after c
  have h := service_quiesces (Service.ofSettings .default) (.script "let") before after
    (by decide +kernel) (by decide +kernel)
  refine ⟨by decide +kernel, by decide +kernel, by decide +kernel, h.1, ?_⟩
  have hidle := h.2.1 fun _ => ⟨List.eq_nil_of_length_eq_zero (by decide +kernel),
    List.eq_nil_of_length_eq_zero (by decide +kernel),
    List.eq_nil_of_length_eq_zero (by decide +kernel)⟩
  rwa [play_append] at hidle

end Scene

end Gutter
