import Gutter.Proofs.Session.Markers
import Gutter.Proofs.Session.Timers

/-!
# What pruning keeps

Pruning either does nothing or keeps exactly the visible editors, each as it was. What belongs to
the others is gone: their timers are stopped and their markers are released, and nothing else is.
-/

namespace Gutter

/-! ## Keys taken out of a map -/

namespace Table

variable {κ α : Type} [DecidableEq κ]

def takeOver (maps : Table κ α × Table κ α) (k : κ) : Table κ α × Table κ α :=
  match maps.2.get? k with
  | some a => (maps.1.insert k a, maps.2.erase k)
  | none => maps

/-- Takes keys out of a map, one after the other: what was taken, and what is left. -/
def takeOut (t : Table κ α) (keys : List κ) : Table κ α × Table κ α :=
  keys.foldl takeOver (.empty, t)

theorem get?_takeOver (maps : Table κ α × Table κ α) (k x : κ) :
    (takeOver maps k).1.get? x =
        (if x = k then maps.2.get? x <|> maps.1.get? x else maps.1.get? x) ∧
      (takeOver maps k).2.get? x = if x = k then none else maps.2.get? x := by
  unfold takeOver
  cases hk : maps.2.get? k with
  | none =>
      by_cases hx : x = k
      · simp [hx, hk]
      · simp [hx]
  | some a =>
      by_cases hx : x = k
      · simp [hx, hk]
      · simp [hx]

theorem get?_foldl_takeOver (keys : List κ) (maps : Table κ α × Table κ α) (x : κ) :
    (keys.foldl takeOver maps).1.get? x =
        (if x ∈ keys then maps.2.get? x <|> maps.1.get? x else maps.1.get? x) ∧
      (keys.foldl takeOver maps).2.get? x = if x ∈ keys then none else maps.2.get? x := by
  induction keys generalizing maps with
  | nil => simp
  | cons k keys ih =>
      obtain ⟨htaken, hleft⟩ := ih (takeOver maps k)
      obtain ⟨hfirst, hsecond⟩ := get?_takeOver maps k x
      rw [List.foldl_cons, htaken, hleft, hfirst, hsecond]
      by_cases hx : x = k
      · simp [hx]
      · simp [hx]

theorem get?_takeOut (t : Table κ α) (keys : List κ) (x : κ) :
    (t.takeOut keys).1.get? x = (if x ∈ keys then t.get? x else none) ∧
      (t.takeOut keys).2.get? x = if x ∈ keys then none else t.get? x := by
  have hempty : (empty : Table κ α).get? x = none := rfl
  simpa [takeOut, hempty] using get?_foldl_takeOver keys (.empty, t) x

end Table

namespace Session

variable {s s' : Session} {visible : List EditorId}

/-- What becomes of a session when all editors that are not visible are forgotten, `n` of them:
their timers are stopped, their markers are released, each once, and nothing else changes. -/
structure Pruned (visible : List EditorId) (n : Nat) (s s' : Session) : Prop where
  keys : s'.cache.keys = s.cache.keys.filter (· ∈ visible)
  entry : ∀ e ∈ visible, s'.entry? e = s.entry? e
  taken : ∀ e, s'.entry? e = (s.cache.takeOut visible).1.get? e
  alarms : ∀ a, a ∈ s'.alarms ↔ a ∈ s.alarms ∧ ∀ e, e ∉ visible → s.timer? e ≠ some a.token
  armed : s.Timed → ∀ a, a ∈ s'.alarms ↔ a ∈ s.alarms ∧ a.editor ∈ visible
  strokes : ∃ released : List MarkerId,
    s'.journal.strokes = s.journal.strokes ++ released.map .release ∧
    released.Perm ((s.cache.pairs.filter (·.1 ∉ visible)).flatMap (·.2.markers)) ∧
    s'.counters = { s.counters with
      markersReleased := s.counters.markersReleased + UInt64.ofNat released.length
      entriesEvicted := s.counters.entriesEvicted + UInt64.ofNat n }
  shown : ∀ names, Owned names s → ∀ m k,
    s'.screen.live? m = some k ↔ s.screen.live? m = some k ∧ k.editor ∈ visible
  size : s'.cache.size + n = s.cache.size
  rest : s' = { s with
    cache := s'.cache
    alarms := s'.alarms
    counters := s'.counters
    journal := { s.journal with strokes := s'.journal.strokes, log := s'.journal.log } }

theorem size_close_add (keep : EditorId → Bool) (s : Session) :
    (s.close keep).cache.size + (s.dropped keep).length = s.cache.size := by
  have h := List.length_eq_length_filter_add (l := s.cache.pairs) (fun x => keep x.1)
  exact h.symm

theorem mem_alarms_close {keep : EditorId → Bool} {a : Alarm} :
    a ∈ (s.close keep).alarms ↔
      a ∈ s.alarms ∧ ∀ e, keep e = false → s.timer? e ≠ some a.token := by
  change a ∈ s.alarms.filter _ ↔ _
  rw [List.mem_filter, decide_eq_true_eq]
  refine and_congr_right fun _ => ?_
  simp only [List.mem_filterMap, dropped, List.mem_filter, ← Table.get?_eq_some_iff, timer?,
    Option.bind_eq_some_iff, Prod.exists, Bool.not_eq_true', ne_eq]
  constructor
  · rintro hnot e hk ⟨entry, he, ht⟩
    exact hnot ⟨e, entry, ⟨he, hk⟩, ht⟩
  · rintro hnot ⟨e, entry, ⟨he, hk⟩, ht⟩
    exact hnot e hk ⟨entry, he, ht⟩

/-- A timer that has not rung belongs to the editor that waits for it. -/
theorem Timed.mem_alarms_close (hs : s.Timed) {keep : EditorId → Bool} {a : Alarm} :
    a ∈ (s.close keep).alarms ↔ a ∈ s.alarms ∧ keep a.editor = true := by
  rw [Session.mem_alarms_close]
  refine and_congr_right fun ha => ?_
  have howned := hs.owned a ha
  constructor
  · intro h
    by_contra hk
    exact h a.editor (by simpa using hk) howned
  · rintro hk e he ht
    rw [hs.eq_of_timer?_eq ht howned, hk] at he
    cases he

theorem Owned.live?_close {names : Nat → MarkerId} (h : Owned names s) {keep : EditorId → Bool}
    {m : MarkerId} {k : Marker} :
    (s.close keep).screen.live? m = some k ↔
      s.screen.live? m = some k ∧ keep k.editor = true := by
  have hmem := (releases_close h keep).mem_iff m
  rw [(releases_close h keep).live?]
  split
  · next hgone =>
    obtain ⟨e, he, hm⟩ := hmem.mp hgone
    obtain ⟨k', hk', rfl⟩ := h.exists_live hm
    simp only [reduceCtorEq, false_iff, not_and]
    intro hk
    obtain rfl := Option.some.inj (hk'.symm.trans hk)
    simpa using he
  · next hkept =>
    refine ⟨fun hk => ⟨hk, ?_⟩, And.left⟩
    by_contra hlost
    exact hkept (hmem.mpr ⟨k.editor, by simpa using hlost, (h.mem_iff _ m).mpr ⟨k, hk, rfl⟩⟩)

theorem prune_of_lt {slack : UInt64}
    (h : s.cache.size - visible.length < slack.toNat) : s.prune slack visible = (s, 0) := by
  rw [prune, isCrowded, if_neg (by simpa using h)]

/-- Pruning that takes place. -/
theorem pruned_prune {slack : UInt64} (h : ¬ s.cache.size - visible.length < slack.toNat) :
    Pruned visible (s.prune slack visible).2 s (s.prune slack visible).1 := by
  have hprune : s.prune slack visible =
      (((s.close (· ∈ visible)).count
        (.countEvicted (UInt64.ofNat (s.dropped (· ∈ visible)).length))).note
          (.evicted (s.dropped (· ∈ visible)).length (s.close (· ∈ visible)).cache.size),
        (s.dropped (· ∈ visible)).length) := by
    rw [prune, isCrowded, if_pos (by simpa using h)]
    rfl
  rw [hprune]
  have hentry : ∀ e, Session.entry? (s.close (· ∈ visible)) e =
      if e ∈ visible then s.entry? e else none := by
    intro e
    simp
  exact
    { keys := Table.keys_filterKeys _ _
      entry := fun e he => (hentry e).trans (if_pos he)
      taken := fun e => (hentry e).trans (s.cache.get?_takeOut visible e).1.symm
      alarms := fun a => mem_alarms_close.trans (by simp)
      armed := fun hs a => hs.mem_alarms_close.trans (by simp)
      strokes := ⟨markersOf (s.dropped (· ∈ visible)), rfl, by
        simp only [markersOf, dropped, decide_not]
        exact .refl _, rfl⟩
      shown := fun names hs m k => hs.live?_close.trans (by simp)
      size := size_close_add _ s
      rest := rfl }

/-- Whatever is remembered and whichever editors are visible: if fewer editors are out of sight than
the slack allows, pruning changes nothing. Otherwise it keeps the visible ones as they are, forgets
the others with their timers and markers, and tells how many. -/
theorem prune_exact (slack : UInt64) (visible : List EditorId) (s : Session) :
    (if s.cache.size - visible.length < slack.toNat then s.prune slack visible = (s, 0)
      else Pruned visible (s.prune slack visible).2 s (s.prune slack visible).1) ∧
    ((s.prune slack visible).1.cache.size < visible.length + slack.toNat ∨
      ∀ e ∈ (s.prune slack visible).1.cache.keys, e ∈ visible) := by
  split
  · next h =>
    refine ⟨prune_of_lt h, .inl ?_⟩
    rw [prune_of_lt h]
    change s.cache.size < _
    omega
  · next h =>
    have hpruned := pruned_prune h
    refine ⟨hpruned, .inr fun e he => ?_⟩
    rw [hpruned.keys, List.mem_filter] at he
    exact of_decide_eq_true he.2

/-- Two editors are checked, and one of them is on screen, listed twice beside an editor that was
never seen. Without slack the other is forgotten, and its marker is released. -/
theorem prune_exact_of_repeated :
    let records : List Record := [⟨1, 1, "unused", none, 1⟩]
    let s := ((Scene.opening (.ofSettings .default) (.split "let")).play
      [.call .activate, .finish ⟨1⟩ (.ok records), .call .handleNext, .finish ⟨2⟩ (.ok records),
        .call .handleNext]).session
    let s' := (s.prune 0 [⟨1⟩, ⟨7⟩, ⟨1⟩]).1
    Pruned [⟨1⟩, ⟨7⟩, ⟨1⟩] 1 s s' ∧ s'.cache.keys = [⟨1⟩] ∧ s'.markersOf? ⟨1⟩ = [⟨1⟩] ∧
      s'.journal.strokes = s.journal.strokes ++ [.release ⟨0⟩] ∧
      s'.counters.entriesEvicted = 1 := by
  intro records s s'
  have h := (prune_exact 0 [⟨1⟩, ⟨7⟩, ⟨1⟩] s).1
  rw [if_neg (by decide +kernel)] at h
  have hcount : (s.prune 0 [⟨1⟩, ⟨7⟩, ⟨1⟩]).2 = 1 := by decide +kernel
  rw [hcount] at h
  exact ⟨h, by decide +kernel, by decide +kernel, by decide +kernel, by decide +kernel⟩

end Session

end Gutter
