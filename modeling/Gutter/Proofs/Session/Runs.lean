import Gutter.Proofs.Session.Ledger

/-!
# One run at a time

Every run that was started is outstanding until its end is handled, and an editor is running
exactly while its run is outstanding. The end of a run counts for the editor it was started for,
unless that editor was forgotten in the meantime.
-/

namespace Gutter

namespace Session

variable {s s' : Session} {lasting : List EditorId} {r : RunName}

theorem entry?_cases {e x : EditorId} {entry' other : Entry} (he' : s'.entry? e = some entry')
    (hothers : ∀ x, x ≠ e → s'.entry? x = s.entry? x) (hx : s'.entry? x = some other) :
    (x = e ∧ other = entry') ∨ (x ≠ e ∧ s.entry? x = some other) := by
  by_cases hxe : x = e
  · subst hxe
    exact .inl ⟨rfl, Option.some.inj (hx.symm.trans he')⟩
  · exact .inr ⟨hxe, (hothers x hxe).symm.trans hx⟩

/-! ## Editors and the books -/

/-- The books on runs are in order, and the editors agree with them: what an editor waits for is
outstanding, and newer than what was stored for it. -/
structure Accounted (s : Session) : Prop where
  sound : s.ledger.Sound
  running : ∀ e entry, s.entry? e = some entry →
    (entry.isRunning = true ↔ (e, entry.generation) ∈ s.ledger.outstanding)
  stored : ∀ r ∈ s.ledger.stored, r ∈ s.ledger.started
  ordered : s.ledger.stored.Pairwise fun r r' => r.1 = r'.1 → r.2.number < r'.2.number
  ahead : ∀ e entry, s.entry? e = some entry → entry.isRunning = true →
    ∀ r ∈ s.ledger.stored, r.1 = e → r.2.number < entry.generation.number

theorem accounted_initial : initial.Accounted where
  sound := ⟨rfl, rfl, by simp [ledger, work, Work.ledger, initial], List.nodup_nil, rfl, rfl, rfl⟩
  running e entry he := by simp at he
  stored r hr := by cases hr
  ordered := .nil
  ahead e entry he := by simp at he

theorem Accounted.sameRuns (hs : s.Accounted) (h : s.SameRuns lasting s') : s'.Accounted := by
  have hperm := h.outstanding hs.sound
  have hstarted := h.started
  have hstored : s'.ledger.stored = s.ledger.stored := by rw [h.rest]
  have hsound := hs.sound.same (h.same hs.sound)
  refine ⟨hsound, ?_, ?_, ?_, ?_⟩
  · intro e entry' he'
    rcases h.entry e entry' he' with ⟨hr, hg⟩ | ⟨entry, he, hr, hg⟩
    · simp only [hr, Bool.false_eq_true, false_iff]
      intro hmem
      have hone := (hsound.mem_started (hsound.outstanding _ hmem)).1
      rw [hg] at hone
      simp [Generation.initial] at hone
    · rw [hr, hg, hs.running e entry he, hperm.mem_iff]
  · rw [hstored, hstarted]
    exact hs.stored
  · rw [hstored]
    exact hs.ordered
  · intro e entry' he' hrun
    rw [hstored]
    rcases h.entry e entry' he' with ⟨hr, -⟩ | ⟨entry, he, hr, hg⟩
    · rw [hr] at hrun
      cases hrun
    · rw [hg]
      exact hs.ahead e entry he (hr ▸ hrun)

theorem Accounted.starts {e : EditorId} (hs : s.Accounted) (h : s.Starts e s')
    (hb : s'.ledger.started.length < 2 ^ 64) : s'.Accounted := by
  have hstarted := h.started
  have hstored : s'.ledger.stored = s.ledger.stored := by
    rw [h.ledger.rest]
    rfl
  have hbound : s.ledger.started.length + 1 < 2 ^ 64 := by
    simpa [hstarted] using hb
  have hmem : ∀ r, r ∈ s'.ledger.outstanding ↔
      r = (e, s.ledger.clock.next) ∨ r ∈ s.ledger.outstanding := by
    intro r
    rw [h.ledger.outstanding.mem_iff]
    exact List.mem_cons
  obtain ⟨entry', he', hr', hg'⟩ := h.running
  refine ⟨(hs.sound.start hbound e).same h.ledger, ?_, ?_, ?_, ?_⟩
  · intro x entry hx
    rw [hmem]
    rcases entry?_cases he' h.others hx with ⟨rfl, rfl⟩ | ⟨hxe, hx⟩
    · simp [hr', hg']
    · simp [hs.running x entry hx, hxe]
  · intro r hr
    rw [hstored] at hr
    rw [hstarted]
    exact List.mem_append_left _ (hs.stored r hr)
  · rw [hstored]
    exact hs.ordered
  · intro x entry hx hrun r hr hre
    rw [hstored] at hr
    rcases entry?_cases he' h.others hx with ⟨rfl, rfl⟩ | ⟨hxe, hx⟩
    · -- the new run has a greater number than any before
      have hle := (hs.sound.mem_started (hs.stored r hr)).2
      have hclock := hs.sound.clock
      rw [hg', UInt64.lt_iff_toNat_lt]
      simp only [Generation.next, UInt64.toNat_add, UInt64.toNat_one]
      omega
    · exact hs.ahead x entry hx hrun r hr hre

theorem Takes.stored (h : s.Takes r s') :
    s'.ledger.stored = s.ledger.stored ∨ s'.ledger.stored = s.ledger.stored ++ [r] := by
  rcases h.ledger with hl | hl
  · exact .inr (by rw [hl.rest])
  · left
    rw [hl.rest]
    rfl

theorem Takes.entry?_of_isRunning (h : s.Takes r s') {x : EditorId} {other : Entry}
    (hx : s'.entry? x = some other) (hr : other.isRunning = true) :
    x ≠ r.1 ∧ s.entry? x = some other := by
  obtain ⟨entry', he', hidle, -⟩ := h.idle
  rcases entry?_cases he' h.others hx with ⟨rfl, rfl⟩ | hother
  · rw [hidle] at hr
    cases hr
  · exact hother

theorem Accounted.sound_of_takes (hs : s.Accounted) (h : s.Takes r s')
    (hb : s.ledger.started.length < 2 ^ 64) : s'.ledger.Sound := by
  have hsucc : ∀ n : UInt64,
      n.toNat ≤ s.ledger.runsCompleted.toNat + s.ledger.runsFailed.toNat +
        s.ledger.staleCompletions.toNat → (n + 1).toNat = n.toNat + 1 :=
    fun n => hs.sound.toNat_succ hb h.mem
  rcases h.ledger with hl | hl
  · refine (hs.sound.settle h.mem ?_ _).same hl
    rw [hsucc _ (by omega)]
    change _ + s.ledger.runsFailed.toNat + s.ledger.staleCompletions.toNat = _
    omega
  · refine (hs.sound.settle h.mem ?_ _).same hl
    rw [hsucc _ (by omega)]
    change s.ledger.runsCompleted.toNat + _ + s.ledger.staleCompletions.toNat = _
    omega

theorem Accounted.takes (hs : s.Accounted) (h : s.Takes r s')
    (hb : s.ledger.started.length < 2 ^ 64) : s'.Accounted := by
  obtain ⟨entry, he, hrun, hgen⟩ := h.awaited
  have hstored : ∀ x ∈ s'.ledger.stored, x ∈ s.ledger.stored ∨ x = r := by
    intro x hx
    rcases h.stored with hst | hst
    · exact .inl (hst ▸ hx)
    · simpa [hst] using hx
  refine ⟨hs.sound_of_takes h hb, ?_, ?_, ?_, ?_⟩
  · intro x other hx
    obtain ⟨entry', he', hr', hg'⟩ := h.idle
    rw [h.outstanding.mem_iff, hs.sound.nodup.mem_erase_iff]
    rcases entry?_cases he' h.others hx with ⟨rfl, rfl⟩ | ⟨hxe, hx⟩
    · simp [hr', hg']
    · have hne : (x, other.generation) ≠ r := fun heq => hxe (congrArg Prod.fst heq)
      simp [hs.running x other hx, hne]
  · intro x hx
    rw [h.started]
    rcases hstored x hx with hx | rfl
    · exact hs.stored x hx
    · exact hs.sound.outstanding _ h.mem
  · rcases h.stored with hst | hst
    · rw [hst]
      exact hs.ordered
    · rw [hst]
      refine List.pairwise_append.mpr ⟨hs.ordered, List.pairwise_singleton _ _, ?_⟩
      intro x hx y hy hxy
      obtain rfl := List.mem_singleton.mp hy
      rw [← hgen]
      exact hs.ahead y.1 entry he hrun x hx hxy
  · intro x other hx hrunx y hy hyx
    obtain ⟨hne, hx⟩ := h.entry?_of_isRunning hx hrunx
    rcases hstored y hy with hy | rfl
    · exact hs.ahead x other hx hrunx y hy hyx
    · exact absurd hyx.symm hne

theorem Accounted.disregards (hs : s.Accounted) (h : s.Disregards r s')
    (hb : s.ledger.started.length < 2 ^ 64) : s'.Accounted := by
  have hstarted := h.started
  have hstored : s'.ledger.stored = s.ledger.stored := by
    rw [h.ledger.rest]
    rfl
  refine ⟨(hs.sound.settle h.mem ?_ _).same h.ledger, ?_, ?_, ?_, ?_⟩
  · rw [hs.sound.toNat_succ hb h.mem (by omega)]
    change s.ledger.runsCompleted.toNat + s.ledger.runsFailed.toNat + _ = _
    omega
  · intro e entry he
    rw [h.entry] at he
    rw [h.ledger.outstanding.mem_iff, hs.running e entry he]
    change _ ↔ _ ∈ s.ledger.outstanding.erase r
    rw [hs.sound.nodup.mem_erase_iff]
    refine ⟨fun hmem => ⟨?_, hmem⟩, And.right⟩
    rintro rfl
    exact h.unawaited ⟨entry, he, (hs.running e entry he).mpr hmem, rfl⟩
  · rw [hstored, hstarted]
    exact hs.stored
  · rw [hstored]
    exact hs.ordered
  · intro e entry he
    rw [h.entry] at he
    rw [hstored]
    exact hs.ahead e entry he

/-- While the books are in order, a property is kept if it is kept whatever happens to them. -/
theorem kept_of_accounted {v : Service} {H : Host → Prop} {Q : Session → Prop}
    (same : ∀ {s s'}, s.Accounted → s.SameRuns lasting s' → Q s → Q s')
    (start : ∀ {s s' e}, s.Accounted → s'.ledger.started.length < 2 ^ 64 → s.Starts e s' →
      Q s → Q s')
    (take : ∀ {s s' r}, s.Accounted → s.Takes r s' → Q s → Q s')
    (disregard : ∀ {s s' r}, s.Accounted → s.Disregards r s' → Q s → Q s') :
    Kept v H lasting fun s => s.ledger.started.length < 2 ^ 64 → s.Accounted ∧ Q s := by
  refine kept_of_runs ?_ ?_ ?_ ?_
  · intro s s' h hs hb
    obtain ⟨ha, hq⟩ := hs (h.started ▸ hb)
    exact ⟨ha.sameRuns h, same ha h hq⟩
  · intro s s' e h hs hb
    have hlength := hb
    rw [h.started, List.length_append] at hlength
    obtain ⟨ha, hq⟩ := hs (by omega)
    exact ⟨ha.starts h hb, start ha hb h hq⟩
  · intro s s' r h hs hb
    rw [h.started] at hb
    obtain ⟨ha, hq⟩ := hs hb
    exact ⟨ha.takes h hb, take ha h hq⟩
  · intro s s' r h hs hb
    rw [h.started] at hb
    obtain ⟨ha, hq⟩ := hs hb
    exact ⟨ha.disregards h hb, disregard ha h hq⟩

/-! ## The fate of a run -/

/-- An editor that a run was started for is remembered, and waits for the run as long as the run is
outstanding. -/
def StandsBy (r : RunName) (s : Session) : Prop :=
  r ∈ s.ledger.started →
    s.knows r.1 = true ∧ (r ∈ s.ledger.outstanding → s.AwaitsRun r.1 r.2)

def Abandoned (r : RunName) (s : Session) : Prop :=
  r ∈ s.ledger.started ∧ ∀ entry, s.entry? r.1 = some entry → entry.generation ≠ r.2

theorem Starts.knows {e x : EditorId} (h : s.Starts e s') (hk : s.knows x = true) :
    s'.knows x = true := by
  by_cases hx : x = e
  · obtain ⟨entry', he', -⟩ := h.running
    exact knows_iff.mpr ⟨entry', hx ▸ he'⟩
  · rw [knows_iff, h.others x hx]
    exact knows_iff.mp hk

theorem Takes.knows {x : EditorId} (h : s.Takes r s') (hk : s.knows x = true) :
    s'.knows x = true := by
  by_cases hx : x = r.1
  · obtain ⟨entry', he', -⟩ := h.idle
    exact knows_iff.mpr ⟨entry', hx ▸ he'⟩
  · rw [knows_iff, h.others x hx]
    exact knows_iff.mp hk

theorem StandsBy.sameRuns (hq : s.StandsBy r) (ha : s.Accounted) (h : s.SameRuns [r.1] s') :
    s'.StandsBy r := by
  intro hr
  rw [h.started] at hr
  obtain ⟨hk, hw⟩ := hq hr
  obtain ⟨entry, he⟩ := knows_iff.mp hk
  obtain ⟨entry', he', hrun, hgen⟩ := h.lasting r.1 (by simp) entry he
  refine ⟨knows_iff.mpr ⟨entry', he'⟩, fun hmem => ?_⟩
  obtain ⟨other, ho, hro, hgo⟩ := hw ((h.outstanding ha.sound).mem_iff.mp hmem)
  obtain rfl := Option.some.inj (he.symm.trans ho)
  exact ⟨entry', he', hrun.trans hro, hgen.trans hgo⟩

theorem StandsBy.starts {e : EditorId} (hq : s.StandsBy r) (h : s.Starts e s') :
    s'.StandsBy r := by
  intro hr
  by_cases hnew : r = (e, s.ledger.clock.next)
  · subst hnew
    obtain ⟨entry', he', -⟩ := h.running
    exact ⟨knows_iff.mpr ⟨entry', he'⟩, fun _ => h.running⟩
  · have hold : r ∈ s.ledger.started := by
      rw [h.started] at hr
      exact (List.mem_append.mp hr).resolve_right (by simpa using hnew)
    obtain ⟨hk, hw⟩ := hq hold
    refine ⟨h.knows hk, fun hmem => ?_⟩
    rw [h.ledger.outstanding.mem_iff] at hmem
    obtain ⟨entry, he, hrun, hgen⟩ := hw ((List.mem_cons.mp hmem).resolve_left hnew)
    have hre : r.1 ≠ e := by
      rintro rfl
      obtain ⟨idle, hi, hri⟩ := h.idle
      obtain rfl := Option.some.inj (he.symm.trans hi)
      rw [hrun] at hri
      cases hri
    exact ⟨entry, (h.others _ hre).trans he, hrun, hgen⟩

theorem StandsBy.takes {t : RunName} (hq : s.StandsBy r) (ha : s.Accounted) (h : s.Takes t s') :
    s'.StandsBy r := by
  intro hr
  rw [h.started] at hr
  obtain ⟨hk, hw⟩ := hq hr
  refine ⟨h.knows hk, fun hmem => ?_⟩
  rw [h.outstanding.mem_iff, ha.sound.nodup.mem_erase_iff] at hmem
  obtain ⟨hne, hmem⟩ := hmem
  obtain ⟨entry, he, hrun, hgen⟩ := hw hmem
  have hrt : r.1 ≠ t.1 := by
    intro hrt
    obtain ⟨other, ho, -, hgo⟩ := h.awaited
    obtain rfl := Option.some.inj (he.symm.trans (hrt ▸ ho))
    exact hne (Prod.ext hrt (hgen.symm.trans hgo))
  exact ⟨entry, (h.others _ hrt).trans he, hrun, hgen⟩

theorem StandsBy.disregards {t : RunName} (hq : s.StandsBy r) (h : s.Disregards t s') :
    s'.StandsBy r := by
  intro hr
  rw [h.started] at hr
  obtain ⟨hk, hw⟩ := hq hr
  refine ⟨?_, fun hmem => ?_⟩
  · rw [knows_iff, h.entry]
    exact knows_iff.mp hk
  · rw [h.ledger.outstanding.mem_iff] at hmem
    obtain ⟨entry, he, hrun, hgen⟩ := hw (List.mem_of_mem_erase hmem)
    exact ⟨entry, (h.entry _).trans he, hrun, hgen⟩

theorem standsBy_kept (v : Service) (H : Host → Prop) (r : RunName) :
    Kept v H [r.1] fun s => s.ledger.started.length < 2 ^ 64 → s.Accounted ∧ s.StandsBy r :=
  kept_of_accounted (fun ha h hq => hq.sameRuns ha h) (fun _ _ h hq => hq.starts h)
    (fun ha h hq => hq.takes ha h) fun _ h hq => hq.disregards h

theorem Abandoned.sameRuns (hq : s.Abandoned r) (ha : s.Accounted) (h : s.SameRuns [] s') :
    s'.Abandoned r := by
  obtain ⟨hr, hq⟩ := hq
  refine ⟨h.started ▸ hr, fun entry' he' => ?_⟩
  rcases h.entry _ entry' he' with ⟨-, hg⟩ | ⟨entry, he, -, hg⟩
  · -- no run has the number of an entry that is new
    have hone := (ha.sound.mem_started hr).1
    rintro heq
    rw [← heq, hg] at hone
    simp [Generation.initial] at hone
  · rw [hg]
    exact hq entry he

theorem Abandoned.starts {e : EditorId} (hq : s.Abandoned r) (ha : s.Accounted)
    (hb : s'.ledger.started.length < 2 ^ 64) (h : s.Starts e s') : s'.Abandoned r := by
  obtain ⟨hr, hq⟩ := hq
  rw [h.started, List.length_append] at hb
  refine ⟨?_, fun other ho => ?_⟩
  · rw [h.started]
    exact List.mem_append_left _ hr
  · obtain ⟨entry', he', -, hg'⟩ := h.running
    rcases entry?_cases he' h.others ho with ⟨-, rfl⟩ | ⟨-, ho⟩
    · rw [hg']
      exact (ha.sound.ne_next hb hr).symm
    · exact hq other ho

theorem Abandoned.takes {t : RunName} (hq : s.Abandoned r) (h : s.Takes t s') :
    s'.Abandoned r := by
  obtain ⟨hr, hq⟩ := hq
  refine ⟨h.started ▸ hr, fun other ho => ?_⟩
  obtain ⟨entry', he', -, hg'⟩ := h.idle
  rcases entry?_cases he' h.others ho with ⟨hrt, rfl⟩ | ⟨-, ho⟩
  · obtain ⟨entry, he, -, hg⟩ := h.awaited
    rw [hg', ← hg]
    exact hq entry (hrt ▸ he)
  · exact hq other ho

theorem Abandoned.disregards {t : RunName} (hq : s.Abandoned r) (h : s.Disregards t s') :
    s'.Abandoned r :=
  ⟨h.started ▸ hq.1, fun other ho => hq.2 other ((h.entry _).symm.trans ho)⟩

theorem abandoned_kept (v : Service) (H : Host → Prop) (r : RunName) :
    Kept v H [] fun s => s.ledger.started.length < 2 ^ 64 → s.Accounted ∧ s.Abandoned r :=
  kept_of_accounted (fun ha h hq => hq.sameRuns ha h) (fun ha hb h hq => hq.starts ha hb h)
    (fun _ h hq => hq.takes h) fun _ h hq => hq.disregards h

/-! ## The end of a run -/

/-- How often the end of a run was handled: with findings, with a failure, with nobody waiting. -/
def ends (s : Session) : UInt64 × UInt64 × UInt64 :=
  (s.counters.runsCompleted, s.counters.runsFailed, s.counters.staleCompletions)

/-- The same after the end of one more run, by its result. -/
def endsWith (result : Except Failure (List Record)) (s : Session) : UInt64 × UInt64 × UInt64 :=
  match result with
  | .ok _ =>
    (s.counters.runsCompleted + 1, s.counters.runsFailed, s.counters.staleCompletions)
  | .error _ =>
    (s.counters.runsCompleted, s.counters.runsFailed + 1, s.counters.staleCompletions)

def endsStale (s : Session) : UInt64 × UInt64 × UInt64 :=
  (s.counters.runsCompleted, s.counters.runsFailed, s.counters.staleCompletions + 1)

theorem Alike.ends (h : s.Alike s') : s'.ends = s.ends :=
  congrArg (fun w : Work => (w.runsCompleted, w.runsFailed, w.staleCompletions)) h.work

/-- On its own the service handles no end of a run. -/
theorem ends_of_chain {v : Service} {host : Host} (h : Chain v host s s') : s'.ends = s.ends := by
  have hends : ∀ s : Session,
      s.ends = (s.ledger.runsCompleted, s.ledger.runsFailed, s.ledger.staleCompletions) :=
    fun _ => rfl
  induction h with
  | refl => rfl
  | tail _ hd ih =>
      rw [← ih]
      rcases hd.sameRuns_or_starts [] with h | ⟨e, h⟩
      · rw [hends, hends, h.rest]
      · rw [hends, hends, h.ledger.rest]
        rfl

variable {e : EditorId} {generation : Generation} {result : Except Failure (List Record)}
  {rest : List Event}

/-- The end of a run that its editor waits for is counted by its result. -/
theorem ends_of_awaitsRun (v : Service) (host : Host)
    (hq : s.queue = .runDone e generation result :: rest) (hw : s.AwaitsRun e generation) :
    (v.handleNext host s).ends = s.endsWith result := by
  obtain ⟨entry, he, hr, hg⟩ := hw
  have h := Service.handled v host s
  generalize v.handleNext host s = s' at h ⊢
  cases h with
  | idle hq' => simp [hq] at hq'
  | orphaned hq' | superseded hq' | unseen hq' | heard hq' => simp [hq] at hq'
  | evicted hq' he' =>
      obtain ⟨⟨rfl, rfl, rfl⟩, rfl⟩ : (_ ∧ _ ∧ _) ∧ _ := by simpa [hq] using hq'
      simp [he] at he'
  | stale hq' he' hg' =>
      obtain ⟨⟨rfl, rfl, rfl⟩, rfl⟩ : (_ ∧ _ ∧ _) ∧ _ := by simpa [hq] using hq'
      obtain rfl := Option.some.inj (he.symm.trans he')
      exact absurd ⟨hr, hg⟩ hg'
  | failed hq' =>
      obtain ⟨⟨rfl, rfl, rfl⟩, rfl⟩ : (_ ∧ _ ∧ _) ∧ _ := by simpa [hq] using hq'
      rfl
  | stored hq' =>
      obtain ⟨⟨rfl, rfl, rfl⟩, rfl⟩ : (_ ∧ _ ∧ _) ∧ _ := by simpa [hq] using hq'
      exact (alike_render v.settings host e _).ends
  | trailed hq' =>
      obtain ⟨⟨rfl, rfl, rfl⟩, rfl⟩ : (_ ∧ _ ∧ _) ∧ _ := by simpa [hq] using hq'
      exact (ends_of_chain (Service.request_chain v host e true _)).trans
        (alike_render v.settings host e _).ends

/-- Why nobody waits for a run: its editor was forgotten, or has another run or none. -/
def whyStale (s : Session) (e : EditorId) (generation : Generation) : CompletionError :=
  match s.entry? e with
  | none => .evicted e
  | some entry => .stale e generation entry.generation

/-- The end of a run that no editor waits for is handled in one way, whatever the host answers. -/
theorem handleNext_eq_disregard (v : Service) (host : Host)
    (hq : s.queue = .runDone e generation result :: rest) (hw : ¬ s.AwaitsRun e generation) :
    v.handleNext host s = s.pop.disregard (s.whyStale e generation) := by
  rw [Service.handleNext_of_queue hq, whyStale]
  cases he : s.entry? e with
  | none =>
      have he' : s.pop.entry? e = none := he
      simp only [Service.handle, complete, he']
      rfl
  | some entry =>
      have hg : ¬ (entry.isRunning = true ∧ entry.generation = generation) :=
        fun h => hw ⟨entry, he, h.1, h.2⟩
      exact Service.handle_runDone_stale (s := s.pop) he hg v host result

theorem handleNext_of_not_awaitsRun (v : Service) (host : Host)
    (hq : s.queue = .runDone e generation result :: rest) (hw : ¬ s.AwaitsRun e generation) :
    ∃ reason, v.handleNext host s = s.pop.disregard reason :=
  ⟨_, handleNext_eq_disregard v host hq hw⟩

theorem ends_of_not_awaitsRun (v : Service) (host : Host)
    (hq : s.queue = .runDone e generation result :: rest) (hw : ¬ s.AwaitsRun e generation) :
    (v.handleNext host s).ends = s.endsStale := by
  obtain ⟨reason, h⟩ := handleNext_of_not_awaitsRun v host hq hw
  rw [h]
  rfl

/-! ## Along a course -/

theorem prefix_started_play (c : Scene) (moves : List Scene.Move) :
    c.session.ledger.started <+: (c.play moves).session.ledger.started := by
  have hkept : Kept c.service (fun _ => True) []
      fun s => c.session.ledger.started <+: s.ledger.started :=
    kept_of_runs (fun h hs => h.started ▸ hs)
      (fun h hs => h.started ▸ hs.trans (List.prefix_append _ _))
      (fun h hs => h.started ▸ hs) fun h hs => h.started ▸ hs
  exact hkept.play trivial (List.prefix_refl _) (fun m _ => m.within_true) (by simp)

theorem length_started_le (c : Scene) (moves : List Scene.Move) :
    c.session.ledger.started.length ≤ (c.play moves).session.ledger.started.length :=
  (prefix_started_play c moves).length_le

theorem Accounted.play {c : Scene} (h : c.session.Accounted) (moves : List Scene.Move)
    (hb : (c.play moves).session.ledger.started.length < 2 ^ 64) :
    (c.play moves).session.Accounted := by
  have hkept : Kept c.service (fun _ => True) []
      fun s => s.ledger.started.length < 2 ^ 64 → s.Accounted ∧ True :=
    kept_of_accounted (fun _ _ => id) (fun _ _ _ => id) (fun _ _ => id) fun _ _ => id
  exact (hkept.play trivial (fun _ => ⟨h, trivial⟩) (fun m _ => m.within_true) (by simp) hb).1

theorem accounted_play (v : Service) (host : Host) (moves : List Scene.Move)
    (hb : ((Scene.opening v host).play moves).session.ledger.started.length < 2 ^ 64) :
    ((Scene.opening v host).play moves).session.Accounted :=
  Accounted.play (c := .opening v host) accounted_initial moves hb

theorem Abandoned.not_awaitsRun_play {c : Scene} {r : RunName} (h : c.session.Abandoned r)
    (ha : c.session.Accounted) {moves : List Scene.Move}
    (hb : (c.play moves).session.ledger.started.length < 2 ^ 64) :
    ¬ (c.play moves).session.AwaitsRun r.1 r.2 := by
  have hend := (abandoned_kept c.service (fun _ => True) r).play trivial (fun _ => ⟨ha, h⟩)
    (fun m _ => m.within_true) (by simp) hb
  rintro ⟨entry, he, -, hg⟩
  exact hend.2.2 entry he hg

/-- No editor waits for a run whose editor was forgotten since it started, even if it is remembered
again. -/
theorem Accounted.not_awaitsRun_of_forgets {c : Scene} (h : c.session.Accounted)
    (hr : r ∈ c.session.ledger.started) {after : List Scene.Move} (hf : c.Forgets r.1 after)
    (hb : (c.play after).session.ledger.started.length < 2 ^ 64) :
    ¬ (c.play after).session.AwaitsRun r.1 r.2 := by
  obtain ⟨first, x, last, rfl, -, hx⟩ := hf
  rw [← Scene.play_concat c first x] at hx
  have hgone : (c.play (first ++ [x])).session.Abandoned r := by
    refine ⟨(prefix_started_play c (first ++ [x])).subset hr, fun entry he => ?_⟩
    rw [knows_iff.mpr ⟨entry, he⟩] at hx
    cases hx
  rw [Scene.play_append_cons c first x last] at hb ⊢
  have hmid := Nat.lt_of_le_of_lt (length_started_le (c.play (first ++ [x])) last) hb
  exact hgone.not_awaitsRun_play (h.play (first ++ [x]) hmid) hb

/-- The editor that a run has just been started for waits for it. -/
theorem standsBy_perform {v : Service} {host : Host} {moves : List Scene.Move} {m : Scene.Move}
    {r : RunName} (hnot : r ∉ ((Scene.opening v host).play moves).session.ledger.started)
    (hr : r ∈ (((Scene.opening v host).play moves).perform m).session.ledger.started)
    (hb : (((Scene.opening v host).play moves).perform m).session.ledger.started.length <
      2 ^ 64) : (((Scene.opening v host).play moves).perform m).session.StandsBy r := by
  have hp := (standsBy_kept ((Scene.opening v host).play moves).service (fun _ => True)
    r).perform_or_closes trivial
      (fun hb => ⟨accounted_play v host moves hb, fun hr => absurd hr hnot⟩) m
  rcases hp with hp | ⟨keep, ha⟩
  · exact (hp hb).2
  · have hl : (((Scene.opening v host).play moves).perform m).session.ledger =
        (close keep ((Scene.opening v host).play moves).session).ledger :=
      congrArg Work.ledger ha.work
    rw [hl] at hr
    exact absurd hr hnot

/-- The books on runs are balanced: runs have different numbers, an editor is running exactly while
its last run is outstanding, every run is counted, and what is stored for an editor is newer each
time. -/
structure RunsBalanced (s : Session) : Prop where
  distinct : (s.ledger.started.map Prod.snd).Nodup
  running : ∀ e entry, s.entry? e = some entry →
    (entry.isRunning = true ↔ s.ledger.outstanding.count (e, entry.generation) = 1)
  idle : ∀ e entry, s.entry? e = some entry → entry.isRunning = false →
    (e, entry.generation) ∉ s.ledger.outstanding
  counted : s.counters.runsStarted.toNat = s.ledger.started.length ∧
    s.journal.requests.length = s.ledger.started.length
  balance : s.counters.runsStarted.toNat = s.counters.runsCompleted.toNat +
    s.counters.runsFailed.toNat + s.counters.staleCompletions.toNat + s.ledger.outstanding.length
  outstanding : ∀ r ∈ s.ledger.outstanding, r ∈ s.ledger.started
  ordered : s.ledger.stored.Pairwise fun r r' => r.1 = r'.1 → r.2.number < r'.2.number

theorem Accounted.runsBalanced (h : s.Accounted) : s.RunsBalanced where
  distinct := h.sound.nodup_generations
  running e entry he := by
    rw [h.running e entry he]
    exact ⟨List.count_eq_one_of_mem h.sound.nodup,
      fun hc => List.count_pos_iff.mp (by omega)⟩
  idle e entry he hr hmem := by
    rw [(h.running e entry he).mpr hmem] at hr
    cases hr
  counted := ⟨h.sound.counted, h.sound.asked⟩
  balance := h.sound.counted.trans h.sound.balance
  outstanding := h.sound.outstanding
  ordered := h.ordered

/-- Along every course the books on runs are balanced. The end of a run is counted as completed or
failed if the editor that it was started for was not forgotten since then, even for a while, and as
stale otherwise. -/
theorem runs_balanced (v : Service) (host : Host) (moves : List Scene.Move)
    (hb : ((Scene.opening v host).play moves).session.ledger.started.length < 2 ^ 64) :
    ((Scene.opening v host).play moves).session.RunsBalanced ∧
      ∀ before m after e generation result rest (host' : Host), moves = before ++ m :: after →
        (e, generation) ∉ ((Scene.opening v host).play before).session.ledger.started →
        (e, generation) ∈ ((Scene.opening v host).play (before ++ [m])).session.ledger.started →
        ((Scene.opening v host).play moves).session.queue =
          .runDone e generation result :: rest →
        (¬ ((Scene.opening v host).play (before ++ [m])).Forgets e after →
          (v.handleNext host' ((Scene.opening v host).play moves).session).ends =
            ((Scene.opening v host).play moves).session.endsWith result) ∧
        (((Scene.opening v host).play (before ++ [m])).Forgets e after →
          (v.handleNext host' ((Scene.opening v host).play moves).session).ends =
            ((Scene.opening v host).play moves).session.endsStale) := by
  refine ⟨(accounted_play v host moves hb).runsBalanced, ?_⟩
  rintro before m after e generation result rest host' rfl hnot hr hq
  rw [Scene.play_append_cons _ before m after] at hb hq ⊢
  have hacc : ((Scene.opening v host).play (before ++ [m])).session.ledger.started.length <
      2 ^ 64 := Nat.lt_of_le_of_lt (length_started_le _ after) hb
  have hstands : ((Scene.opening v host).play (before ++ [m])).session.StandsBy
      (e, generation) := by
    rw [Scene.play_concat _ before m] at hr hacc ⊢
    exact standsBy_perform hnot hr hacc
  have hstart : ((Scene.opening v host).play (before ++ [m])).session.Accounted :=
    accounted_play v host (before ++ [m]) hacc
  generalize (Scene.opening v host).play (before ++ [m]) = c at hr hb hq hstands hstart ⊢
  constructor
  · intro hf
    have hend := (standsBy_kept c.service (fun _ => True) (e, generation)).play trivial
      (fun _ => ⟨hstart, hstands⟩) (fun m _ => m.within_true)
      (fun x hx before hbefore => ?_) hb
    · exact ends_of_awaitsRun v host' hq <| (hend.2 ((prefix_started_play c after).subset hr)).2
        (mem_outstanding_of_queue hq)
    · obtain rfl := List.mem_singleton.mp hx
      exact Scene.knows_of_not_forgets hf (hstands hr).1 hbefore
  · intro hf
    exact ends_of_not_awaitsRun v host' hq (hstart.not_awaitsRun_of_forgets hr hf hb)

/-- An editor is closed during a check and asks for another one at once. The first run then counts
as stale, although the editor is running again. -/
theorem runs_balanced_of_reopened :
    let s := ((Scene.opening (.ofSettings .default) (.script "let")).play
      [.call .activate, .call (.editorClosed ⟨0⟩), .call (.request ⟨0⟩ false),
        .finish ⟨1⟩ (.ok [])]).session
    s.RunsBalanced ∧ s.AwaitsRun ⟨0⟩ ⟨2⟩ ∧
      ((Service.ofSettings .default).handleNext (.script "let") s).ends = (0, 0, 1) := by
  have h := runs_balanced (.ofSettings .default) (.script "let")
    [.call .activate, .call (.editorClosed ⟨0⟩), .call (.request ⟨0⟩ false), .finish ⟨1⟩ (.ok [])]
    (by decide +kernel)
  refine ⟨h.1, ⟨_, rfl, by decide +kernel, by decide +kernel⟩, ?_⟩
  exact (h.2 [] (.call .activate) [.call (.editorClosed ⟨0⟩), .call (.request ⟨0⟩ false),
    .finish ⟨1⟩ (.ok [])] ⟨0⟩ ⟨1⟩ (.ok []) [] _ rfl (by decide +kernel) (by decide +kernel)
    rfl).2 (by decide +kernel) |>.trans (by decide +kernel)

end Session

end Gutter
