import Gutter.Proofs.Session.Kept
import Gutter.Proofs.Session.Strokes
import Mathlib.Algebra.Group.Nat.Defs

/-!
# Who owns the markers

The markers that the host shows are those that are remembered, each with the editor it was made
for. `Owned` says so between the elementary steps of a session, and every step keeps it.
-/

namespace Gutter

namespace Session

def screen (s : Session) : Screen := .after s.journal.strokes

def markersOf? (s : Session) (e : EditorId) : List MarkerId :=
  ((s.entry? e).map Entry.markers).getD []

theorem markersOf?_of_entry {s : Session} {e : EditorId} {entry : Entry}
    (he : s.entry? e = some entry) : s.markersOf? e = entry.markers := by
  rw [markersOf?, he]
  rfl

theorem markersOf?_of_none {s : Session} {e : EditorId} (he : s.entry? e = none) :
    s.markersOf? e = [] := by
  rw [markersOf?, he]
  rfl

/-- A step that makes no marker, releases none and forgets none. -/
structure Unmarked (s s' : Session) : Prop where
  markers : s'.markersOf? = s.markersOf?
  strokes : ∃ plain : List Stroke, (∀ stroke ∈ plain, stroke.isMarking = false) ∧
    s'.journal.strokes = s.journal.strokes ++ plain
  minted : s'.minted = s.minted
  created : s'.counters.markersCreated = s.counters.markersCreated
  released : s'.counters.markersReleased = s.counters.markersReleased

/-! ## Steps without markers -/

theorem unmarked_of_markers {s s' : Session} (hm : s'.markersOf? = s.markersOf?)
    (hs : s'.journal.strokes = s.journal.strokes) (hn : s'.minted = s.minted)
    (hc : s'.counters.markersCreated = s.counters.markersCreated)
    (hr : s'.counters.markersReleased = s.counters.markersReleased) : s.Unmarked s' :=
  ⟨hm, ⟨[], by simp, by simp [hs]⟩, hn, hc, hr⟩

theorem unmarked_draw {strokes : List Stroke} (h : ∀ stroke ∈ strokes, stroke.isMarking = false)
    (s : Session) : s.Unmarked (s.draw strokes) :=
  ⟨rfl, ⟨strokes, h, rfl⟩, rfl, rfl, rfl⟩

theorem unmarked_note (event : Log.Event) (s : Session) : s.Unmarked (s.note event) :=
  unmarked_of_markers rfl rfl rfl rfl rfl

theorem Unmarked.refl (s : Session) : s.Unmarked s := unmarked_of_markers rfl rfl rfl rfl rfl

theorem Unmarked.trans {s s' s'' : Session} (h : s.Unmarked s') (h' : s'.Unmarked s'') :
    s.Unmarked s'' := by
  obtain ⟨first, hfirst, hs⟩ := h.strokes
  obtain ⟨second, hsecond, hs'⟩ := h'.strokes
  refine ⟨h'.markers.trans h.markers, ⟨first ++ second, ?_, ?_⟩, h'.minted.trans h.minted,
    h'.created.trans h.created, h'.released.trans h.released⟩
  · intro stroke hmem
    exact (List.mem_append.mp hmem).elim (hfirst stroke) (hsecond stroke)
  · rw [hs', hs, List.append_assoc]

theorem markersOf?_edit {f : Entry → Entry} (h : ∀ entry, (f entry).markers = entry.markers)
    (e : EditorId) (s : Session) : (s.edit e f).markersOf? = s.markersOf? := by
  funext x
  rw [markersOf?, markersOf?, entry?_edit]
  split
  · cases s.entry? x <;> simp [h]
  · rfl

theorem markersOf?_ensure (e : EditorId) (file : Path) (s : Session) :
    (s.ensure e file).markersOf? = s.markersOf? := by
  funext x
  rw [markersOf?, markersOf?, entry?_ensure]
  split
  · next h =>
    subst h
    cases s.entry? x <;> rfl
  · rfl

theorem unmarked_edit {f : Entry → Entry} (h : ∀ entry, (f entry).markers = entry.markers)
    (e : EditorId) (s : Session) : s.Unmarked (s.edit e f) :=
  unmarked_of_markers (markersOf?_edit h e s) rfl rfl rfl rfl

theorem unmarked_showStatus (settings : Settings) (host : Host) (e : EditorId) (s : Session) :
    s.Unmarked (s.showStatus settings host e) := by
  unfold showStatus
  split
  · refine unmarked_draw ?_ s
    unfold statusStroke
    split <;> simp [Stroke.isMarking]
  · exact .refl s

theorem unmarked_showIssues (host : Host) (e : EditorId) (s : Session) :
    s.Unmarked (s.showIssues host e) := by
  unfold showIssues
  split
  · exact .refl s
  · split <;> exact unmarked_draw (by simp [Stroke.isMarking]) s

theorem unmarked_refocus (settings : Settings) (host : Host) (e : EditorId) (s : Session) :
    s.Unmarked (s.refocus settings host e) :=
  (((unmarked_note _ s).trans (unmarked_draw (by simp [Stroke.isMarking]) _)).trans
    (unmarked_showStatus settings host e _)).trans (unmarked_showIssues host e _)

theorem unmarked_setTimer (settings : Settings) (e : EditorId) (s : Session) :
    s.Unmarked (s.setTimer settings e) :=
  unmarked_of_markers (markersOf?_edit (f := .setTimer (some s.nextTimer)) (fun _ => rfl) e s)
    rfl rfl rfl rfl

theorem unmarked_start (settings : Settings) (target : Target) (text : String) (s : Session) :
    s.Unmarked (s.start settings target text) :=
  unmarked_of_markers (markersOf?_edit (f := .start s.clock.next) (fun _ => rfl) target.editor s)
    rfl rfl rfl rfl

/-! ## The invariant -/

/-- The markers are owned by the editors that remember them, and counted. Every name that was
mentioned was given before, so the next name is free. -/
structure Owned (names : Nat → MarkerId) (s : Session) : Prop where
  tidy : Tidy s.journal.strokes
  mem_iff : ∀ e m, m ∈ s.markersOf? e ↔ ∃ k, s.screen.live? m = some k ∧ k.editor = e
  nodup : ∀ e, (s.markersOf? e).Nodup
  named : ∀ stroke ∈ s.journal.strokes, ∀ m, stroke.marker? = some m →
    ∃ i < s.minted, m = names i
  minted : s.journal.strokes.countP Stroke.isCreate = s.minted
  created : s.counters.markersCreated = UInt64.ofNat s.minted
  released : s.counters.markersReleased =
    UInt64.ofNat (s.journal.strokes.countP Stroke.isRelease)

variable {names : Nat → MarkerId} {s s' : Session}

theorem owned_initial (names : Nat → MarkerId) : Owned names .initial where
  tidy := tidy_nil
  mem_iff e m := by
    rw [markersOf?_of_none (entry?_initial e)]
    simp [screen, initial]
  nodup e := by
    rw [markersOf?_of_none (entry?_initial e)]
    exact List.nodup_nil
  named stroke h := by simp [initial] at h
  minted := rfl
  created := rfl
  released := rfl

theorem live?_draw_of_not_isMarking {plain : List Stroke}
    (h : ∀ stroke ∈ plain, stroke.isMarking = false) (screen : Screen) (m : MarkerId) :
    (screen.draw plain).live? m = screen.live? m := by
  induction plain generalizing screen with
  | nil => rfl
  | cons stroke plain ih =>
      refine (ih (fun x hx => h x (by simp [hx])) (screen.apply stroke)).trans ?_
      rw [Screen.live?, Stroke.markers_apply_of_not_isMarking (h stroke (by simp)), Screen.live?]

theorem marker?_eq_none_of_not_isMarking {stroke : Stroke} (h : stroke.isMarking = false) :
    stroke.marker? = none := by
  cases stroke <;> first | rfl | simp [Stroke.isMarking] at h

theorem countP_eq_zero_of_not_isMarking {plain : List Stroke}
    (h : ∀ stroke ∈ plain, stroke.isMarking = false) :
    plain.countP Stroke.isCreate = 0 ∧ plain.countP Stroke.isRelease = 0 := by
  constructor <;> refine List.countP_eq_zero.mpr fun stroke hmem hc => ?_
  all_goals
    have := h stroke hmem
    cases stroke <;> simp_all [Stroke.isMarking, Stroke.isCreate, Stroke.isRelease]

/-- A step without markers keeps them owned. -/
theorem Owned.of_unmarked (h : Owned names s) (hu : s.Unmarked s') : Owned names s' := by
  obtain ⟨plain, hplain, hs⟩ := hu.strokes
  obtain ⟨hcreate, hrelease⟩ := countP_eq_zero_of_not_isMarking hplain
  have hlive : ∀ m, s'.screen.live? m = s.screen.live? m := by
    intro m
    rw [screen, hs, Screen.after_append, live?_draw_of_not_isMarking hplain, screen]
  constructor
  · rw [hs]
    exact h.tidy.append_plain hplain
  · intro e m
    rw [hu.markers, h.mem_iff]
    simp only [hlive]
  · intro e
    rw [hu.markers]
    exact h.nodup e
  · intro stroke hmem m hm
    rw [hu.minted]
    rw [hs, List.mem_append] at hmem
    rcases hmem with hmem | hmem
    · exact h.named stroke hmem m hm
    · rw [marker?_eq_none_of_not_isMarking (hplain stroke hmem)] at hm
      cases hm
  · rw [hs, List.countP_append, hcreate, hu.minted, Nat.add_zero, h.minted]
  · rw [hu.created, hu.minted, h.created]
  · rw [hu.released, hs, List.countP_append, hrelease, Nat.add_zero, h.released]

/-! ## Releasing and making markers -/

/-- Markers of some editors are released and forgotten. -/
structure Releases (gone : List MarkerId) (lost : EditorId → Bool) (s s' : Session) : Prop where
  nodup : gone.Nodup
  mem_iff : ∀ m, m ∈ gone ↔ ∃ e, lost e = true ∧ m ∈ s.markersOf? e
  markers : ∀ e, s'.markersOf? e = if lost e then [] else s.markersOf? e
  strokes : s'.journal.strokes = s.journal.strokes ++ gone.map .release
  minted : s'.minted = s.minted
  created : s'.counters.markersCreated = s.counters.markersCreated
  released : s'.counters.markersReleased =
    s.counters.markersReleased + UInt64.ofNat gone.length

/-- One more marker is made for an editor that is remembered. Its only live marker can be the error
marker that was made right before. -/
structure Creates (marker : MarkerId) (e : EditorId) (severity : Severity) (lines : List UInt64)
    (s s' : Session) : Prop where
  last : ∀ m k, s.screen.live? m = some k → k.editor = e →
    severity = .warning ∧ s.journal.strokes.getLast? = some (.create e m .error k.lines)
  markers : ∀ x, s'.markersOf? x = if x = e then s.markersOf? x ++ [marker] else s.markersOf? x
  strokes : s'.journal.strokes = s.journal.strokes ++ [.create e marker severity lines]
  minted : s'.minted = s.minted + 1
  created : s'.counters.markersCreated = s.counters.markersCreated + 1
  released : s'.counters.markersReleased = s.counters.markersReleased

theorem Releases.live? {gone : List MarkerId} {lost : EditorId → Bool}
    (hr : Releases gone lost s s') (m : MarkerId) :
    s'.screen.live? m = if m ∈ gone then none else s.screen.live? m := by
  rw [screen, hr.strokes, Screen.after_append, Screen.live?_draw_release, screen]

theorem Creates.live? {marker : MarkerId} {e : EditorId} {severity : Severity}
    {lines : List UInt64} (hc : Creates marker e severity lines s s') (m : MarkerId) :
    s'.screen.live? m = if m = marker then some ⟨e, severity, lines⟩ else s.screen.live? m := by
  rw [screen, hc.strokes, Screen.after_concat, Screen.live?_create, screen]

theorem Owned.exists_live (h : Owned names s) {e : EditorId} {m : MarkerId}
    (hm : m ∈ s.markersOf? e) : ∃ k, s.screen.live? m = some k ∧ k.editor = e :=
  (h.mem_iff e m).mp hm

/-- An editor whose markers are not released keeps them, and no other is released with them. -/
theorem Owned.mem_iff_of_releases {gone : List MarkerId} {lost : EditorId → Bool}
    (h : Owned names s) (hr : Releases gone lost s s') (e : EditorId) (m : MarkerId) :
    m ∈ s'.markersOf? e ↔ ∃ k, s'.screen.live? m = some k ∧ k.editor = e := by
  rw [hr.markers, hr.live?]
  by_cases hl : lost e = true
  · simp only [hl, ite_true, List.not_mem_nil, false_iff, not_exists, not_and]
    intro k hk hke
    split at hk
    · cases hk
    · next hmem => exact hmem ((hr.mem_iff m).mpr ⟨e, hl, (h.mem_iff e m).mpr ⟨k, hk, hke⟩⟩)
  · simp only [hl, Bool.false_eq_true, ite_false, h.mem_iff]
    refine exists_congr fun k => and_congr_left fun hke => ?_
    split
    · next hmem =>
      obtain ⟨e', hl', he'⟩ := (hr.mem_iff m).mp hmem
      obtain ⟨k', hk', hke'⟩ := h.exists_live he'
      refine ⟨fun hk => ?_, fun hk => by cases hk⟩
      obtain rfl : k' = k := Option.some.inj (hk'.symm.trans hk)
      exact absurd (hke ▸ hke' ▸ hl') hl
    · exact Iff.rfl

theorem Owned.of_releases {gone : List MarkerId} {lost : EditorId → Bool} (h : Owned names s)
    (hr : Releases gone lost s s') : Owned names s' := by
  have hnone : (gone.map Stroke.release).countP Stroke.isCreate = 0 := by
    simp [List.countP_eq_zero, Stroke.isCreate]
  have hall : (gone.map Stroke.release).countP Stroke.isRelease = gone.length := by
    rw [← List.length_map Stroke.release]
    exact List.countP_eq_length.mpr (by simp [Stroke.isRelease])
  have hlive : ∀ m ∈ gone, ∃ k, s.screen.live? m = some k := by
    intro m hmem
    obtain ⟨e, -, he⟩ := (hr.mem_iff m).mp hmem
    obtain ⟨k, hk, -⟩ := h.exists_live he
    exact ⟨k, hk⟩
  refine ⟨?_, h.mem_iff_of_releases hr, ?_, ?_, ?_, ?_, ?_⟩
  · rw [hr.strokes]
    exact h.tidy.append_release hr.nodup hlive
  · intro e
    rw [hr.markers]
    split
    · exact List.nodup_nil
    · exact h.nodup e
  · intro stroke hmem m hm
    rw [hr.minted]
    rw [hr.strokes, List.mem_append] at hmem
    rcases hmem with hmem | hmem
    · exact h.named stroke hmem m hm
    · obtain ⟨m', hg, rfl⟩ := List.mem_map.mp hmem
      obtain rfl : m' = m := Option.some.inj hm
      obtain ⟨k, hk⟩ := hlive m' hg
      obtain ⟨made, hmade, hname⟩ := Screen.exists_stroke_of_live? hk
      exact h.named made hmade m' hname
  · rw [hr.strokes, List.countP_append, hnone, hr.minted, Nat.add_zero, h.minted]
  · rw [hr.created, hr.minted, h.created]
  · rw [hr.released, hr.strokes, List.countP_append, hall, h.released, UInt64.ofNat_add]

theorem Owned.ne_next (h : Owned names s) (hinj : Function.Injective names) :
    ∀ stroke ∈ s.journal.strokes, stroke.marker? ≠ some (names s.minted) := by
  intro stroke hmem hm
  obtain ⟨i, hlt, hi⟩ := h.named stroke hmem _ hm
  exact absurd (hinj hi) (Nat.ne_of_gt hlt)

theorem Owned.live?_next (h : Owned names s) (hinj : Function.Injective names) :
    s.screen.live? (names s.minted) = none :=
  Screen.live?_eq_none_of_forall (h.ne_next hinj)

/-- The new marker belongs to its editor, and the others stay where they were. -/
theorem Owned.mem_iff_of_creates {e : EditorId} {severity : Severity} {lines : List UInt64}
    (h : Owned names s) (hinj : Function.Injective names)
    (hc : Creates (names s.minted) e severity lines s s') (x : EditorId) (m : MarkerId) :
    m ∈ s'.markersOf? x ↔ ∃ k, s'.screen.live? m = some k ∧ k.editor = x := by
  rw [hc.markers, hc.live?]
  by_cases hx : x = e
  · subst hx
    by_cases hmn : m = names s.minted
    · simp [hmn]
    · simp [hmn, h.mem_iff]
  · simp only [hx, ite_false, h.mem_iff]
    split
    · next hmn =>
      subst hmn
      simp [h.live?_next hinj, Ne.symm hx]
    · exact Iff.rfl

theorem Owned.of_creates {e : EditorId} {severity : Severity} {lines : List UInt64}
    (h : Owned names s) (hinj : Function.Injective names)
    (hc : Creates (names s.minted) e severity lines s s') : Owned names s' := by
  refine ⟨?_, h.mem_iff_of_creates hinj hc, ?_, ?_, ?_, ?_, ?_⟩
  · rw [hc.strokes]
    exact tidy_concat.mpr ⟨h.tidy, h.ne_next hinj, hc.last⟩
  · intro x
    rw [hc.markers]
    split
    · refine List.nodup_append.mpr ⟨h.nodup x, List.nodup_singleton _, ?_⟩
      intro m hmem m' hm' heq
      obtain rfl := List.mem_singleton.mp hm'
      obtain ⟨k, hk, -⟩ := h.exists_live hmem
      rw [heq, h.live?_next hinj] at hk
      cases hk
    · exact h.nodup x
  · intro stroke hmem m hm
    rw [hc.minted]
    rw [hc.strokes, List.mem_append, List.mem_singleton] at hmem
    rcases hmem with hmem | rfl
    · obtain ⟨i, hlt, hn⟩ := h.named stroke hmem m hm
      exact ⟨i, Nat.lt_succ_of_lt hlt, hn⟩
    · exact ⟨s.minted, Nat.lt_succ_self _, (Option.some.inj hm).symm⟩
  · rw [hc.strokes, List.countP_append, hc.minted, h.minted]
    rfl
  · rw [hc.created, hc.minted, h.created, UInt64.ofNat_add]
    rfl
  · rw [hc.released, hc.strokes, List.countP_append, h.released]
    rfl

theorem owned_releaseOf (h : Owned names s) (e : EditorId) : Owned names (s.releaseOf e) := by
  cases he : s.entry? e with
  | none => simpa only [releaseOf, he] using h
  | some entry =>
      have hmarkers : s.markersOf? e = entry.markers := markersOf?_of_entry he
      have hrelease : s.releaseOf e = (s.release entry.markers).edit e .takeMarkers := by
        simp only [releaseOf, he]
      rw [hrelease]
      have hr : Releases (s.markersOf? e) (fun x => decide (x = e)) s
          ((s.release entry.markers).edit e .takeMarkers) := by
        refine ⟨h.nodup e, by simp, ?_, ?_, rfl, rfl, ?_⟩
        · intro x
          rw [← hrelease, markersOf?, entry?_releaseOf]
          by_cases hx : x = e
          · cases s.entry? x <;> simp [hx, Entry.takeMarkers]
          · simp [hx, markersOf?]
        · rw [hmarkers]
          rfl
        · rw [hmarkers]
          rfl
      exact h.of_releases hr

theorem markersOf?_releaseOf (e : EditorId) (s : Session) : (s.releaseOf e).markersOf? e = [] := by
  rw [markersOf?, entry?_releaseOf, if_pos rfl]
  cases s.entry? e <;> rfl

/-! ## Drawing an editor -/

variable {host : Host}

theorem mark_of_ne_nil {lines : List UInt64} (hl : lines ≠ []) (host : Host) (e : EditorId)
    (severity : Severity) (s : Session) :
    (s.mark host e severity lines).journal.strokes =
      s.journal.strokes ++ [.create e (host.marker s.minted) severity lines] := by
  simp [mark, hl, draw, edit, count]

theorem owned_mark (h : Owned names s) (hinj : Function.Injective names)
    (hnames : host.marker = names) {e : EditorId} {entry : Entry} (he : s.entry? e = some entry)
    (severity : Severity) (lines : List UInt64)
    (hlast : ∀ m k, s.screen.live? m = some k → k.editor = e →
      severity = .warning ∧ s.journal.strokes.getLast? = some (.create e m .error k.lines)) :
    Owned names (s.mark host e severity lines) := by
  by_cases hl : lines = []
  · simpa [mark, hl] using h
  · have hmark : s.mark host e severity lines =
        { (((s.draw [.create e (host.marker s.minted) severity lines]).edit e
          (.addMarker (host.marker s.minted))).count .countMarker) with
          minted := s.minted + 1 } := by
      rw [mark, if_neg (by simpa using hl)]
      rfl
    subst hnames
    refine h.of_creates hinj ⟨hlast, ?_, mark_of_ne_nil hl host e severity s, ?_, ?_, ?_⟩
    · intro x
      rw [markersOf?, entry?_mark, markersOf?]
      by_cases hx : x = e
      · simp [hx, hl, he, Entry.addMarker]
      · simp [hx]
    · rw [hmark]
    · rw [hmark]
      rfl
    · rw [hmark]
      rfl

/-- The markers of an editor are all made anew, those of the others stay. -/
theorem owned_render (h : Owned names s) (hinj : Function.Injective names)
    (hnames : host.marker = names) (settings : Settings) (e : EditorId) :
    Owned names (s.render settings host e) := by
  unfold render
  cases he : s.entry? e with
  | none => exact h
  | some entry =>
      have h₁ := owned_releaseOf h e
      have he₁ : Session.entry? (s.releaseOf e) e = some entry.takeMarkers := by
        rw [entry?_releaseOf, if_pos rfl, he]
        rfl
      -- no marker of the editor is live once the old ones are released
      have hgone : ∀ m k, (s.releaseOf e).screen.live? m = some k → k.editor ≠ e := by
        intro m k hk hke
        have hmem := (h₁.mem_iff e m).mpr ⟨k, hk, hke⟩
        rw [markersOf?_releaseOf] at hmem
        exact List.not_mem_nil hmem
      have h₂ := owned_mark h₁ hinj hnames he₁ .error entry.marked.errors
        fun m k hk hke => absurd hke (hgone m k hk)
      obtain ⟨markers, he₂⟩ := (alike_mark host e .error entry.marked.errors _).exists_entry he₁
      have h₃ := owned_mark h₂ hinj hnames he₂ .warning entry.marked.warnings ?_
      · exact ((h₃.of_unmarked (unmarked_note _ _)).of_unmarked
          (unmarked_showStatus settings host e _)).of_unmarked (unmarked_showIssues host e _)
      · intro m k hk hke
        refine ⟨rfl, ?_⟩
        by_cases hl : entry.marked.errors = []
        · have hsame : (s.releaseOf e).mark host e .error entry.marked.errors = s.releaseOf e := by
            simp [mark, hl]
          rw [hsame] at hk
          exact absurd hke (hgone m k hk)
        · have hstrokes := mark_of_ne_nil hl host e .error (s.releaseOf e)
          rw [screen, hstrokes, Screen.after_concat, Screen.live?_create] at hk
          split at hk
          · next hm =>
            obtain rfl := Option.some.inj hk
            rw [hstrokes, List.getLast?_concat, hm]
          · exact absurd hke (hgone m k hk)

/-! ## Forgetting editors -/

theorem mem_markersOf {entries : List (EditorId × Entry)} {m : MarkerId} :
    m ∈ markersOf entries ↔ ∃ e entry, (e, entry) ∈ entries ∧ m ∈ entry.markers := by
  simp [markersOf]

theorem mem_markersOf?_iff {e : EditorId} {m : MarkerId} :
    m ∈ s.markersOf? e ↔ ∃ entry, s.entry? e = some entry ∧ m ∈ entry.markers := by
  rw [markersOf?]
  cases s.entry? e <;> simp

/-- The markers of different editors differ, so together they are without repetition. -/
theorem Owned.nodup_markersOf (h : Owned names s) {entries : List (EditorId × Entry)}
    (hsub : entries.Sublist s.cache.pairs) : (markersOf entries).Nodup := by
  have hmem : ∀ {x : EditorId × Entry}, x ∈ entries → s.entry? x.1 = some x.2 :=
    fun hx => Table.get?_eq_some_iff.mpr (hsub.subset hx)
  refine List.nodup_flatMap.mpr ⟨?_, ?_⟩
  · intro x hx
    rw [← markersOf?_of_entry (hmem hx)]
    exact h.nodup x.1
  · have hkeys : entries.Pairwise (fun x y => x.1 ≠ y.1) :=
      List.pairwise_map.mp (s.cache.distinct.sublist (hsub.map Prod.fst))
    refine hkeys.imp_of_mem ?_
    intro x y hx hy hne m hmx hmy
    obtain ⟨k, hk, hkx⟩ :=
      (h.mem_iff x.1 m).mp (mem_markersOf?_iff.mpr ⟨x.2, hmem hx, hmx⟩)
    obtain ⟨k', hk', hky⟩ :=
      (h.mem_iff y.1 m).mp (mem_markersOf?_iff.mpr ⟨y.2, hmem hy, hmy⟩)
    obtain rfl : k = k' := Option.some.inj (hk.symm.trans hk')
    exact hne (hkx.symm.trans hky)

theorem releases_close (h : Owned names s) (keep : EditorId → Bool) :
    Releases (markersOf (s.dropped keep)) (fun e => !keep e) s (s.close keep) := by
  refine ⟨h.nodup_markersOf List.filter_sublist, ?_, ?_, rfl, rfl, rfl, rfl⟩
  · intro m
    simp only [mem_markersOf, dropped, List.mem_filter, ← Table.get?_eq_some_iff,
      mem_markersOf?_iff]
    constructor
    · rintro ⟨e, entry, ⟨he, hk⟩, hm⟩
      exact ⟨e, hk, entry, he, hm⟩
    · rintro ⟨e, hk, entry, he, hm⟩
      exact ⟨e, entry, ⟨he, hk⟩, hm⟩
  · intro e
    rw [markersOf?, entry?_close, markersOf?]
    cases keep e <;> simp

theorem owned_close (h : Owned names s) (keep : EditorId → Bool) :
    Owned names (s.close keep) :=
  h.of_releases (releases_close h keep)

/-! ## Along a course -/

theorem unmarked_ring (token : TimerToken) (s : Session) : s.Unmarked (s.ring token) := by
  rcases ring_cases token s with h | ⟨a, -, -, h⟩ <;> rw [h]
  · exact .refl s
  · exact unmarked_of_markers rfl rfl rfl rfl rfl

theorem unmarked_finish (generation : Generation) (result : Except Failure (List Record))
    (s : Session) : s.Unmarked (s.finish generation result) := by
  rcases finish_cases generation result s with h | ⟨run, -, h⟩ <;> rw [h]
  · exact .refl s
  · exact unmarked_of_markers rfl rfl rfl rfl rfl

theorem unmarked_store (e : EditorId) (generation : Generation) (findings : Findings)
    (s : Session) : s.Unmarked (s.pop.store e generation findings) :=
  unmarked_of_markers (markersOf?_edit (f := .commit findings) (fun _ => rfl) e s)
    rfl rfl rfl rfl

/-- What the service does leaves the markers owned, if the host never gives a name twice. -/
theorem owned_keptByEvents (v : Service) (hinj : Function.Injective names) :
    KeptByEvents v (·.marker = names) (Owned names) where
  deed hh hd h := by
    cases hd with
    | note => exact h.of_unmarked (unmarked_note _ _)
    | soil e => exact h.of_unmarked (unmarked_edit (f := .soil) (fun _ => rfl) e _)
    | meet => exact h.of_unmarked (unmarked_of_markers (markersOf?_ensure _ _ _) rfl rfl rfl rfl)
    | setTimer => exact h.of_unmarked (unmarked_setTimer _ _ _)
    | start => exact h.of_unmarked (unmarked_start _ _ _ _)
    | render e => exact owned_render h hinj hh v.settings e
    | showStatus e => exact h.of_unmarked (unmarked_showStatus v.settings _ e _)
    | clearStatus => exact h.of_unmarked (unmarked_draw (by simp [Stroke.isMarking]) _)
    | tally => exact h.of_unmarked (unmarked_of_markers rfl rfl rfl rfl rfl)
  ignore _ _ h := h.of_unmarked (unmarked_of_markers rfl rfl rfl rfl rfl)
  takeTimer _ _ _ h := h.of_unmarked
    (unmarked_of_markers (markersOf?_edit (f := .setTimer none) (fun _ => rfl) _ _) rfl rfl rfl rfl)
  disregard _ _ _ h := h.of_unmarked (unmarked_of_markers rfl rfl rfl rfl rfl)
  abandon _ _ h := h.of_unmarked
    (unmarked_of_markers (markersOf?_edit (f := .fail) (fun _ => rfl) _ _) rfl rfl rfl rfl)
  store hh _ _ h := owned_render (h.of_unmarked (unmarked_store _ _ _ _)) hinj hh v.settings _

/-- Whatever happens, the markers stay owned. -/
theorem owned_kept (v : Service) (hinj : Function.Injective names) :
    Kept v (·.marker = names) [] (Owned names) where
  deed := (owned_keptByEvents v hinj).deed
  handleNext := (owned_keptByEvents v hinj).handleNext
  close _ h := owned_close h _
  refocus e _ h := h.of_unmarked (unmarked_refocus _ _ e _)
  blank h := h.of_unmarked (unmarked_draw (by simp [Stroke.isMarking]) _)
  pass ms h := h.of_unmarked (unmarked_of_markers rfl rfl rfl rfl rfl)
  ring token h := h.of_unmarked (unmarked_ring token _)
  finish generation result h := h.of_unmarked (unmarked_finish generation result _)

/-- The number of markers is counted as long as it fits. -/
theorem Owned.markersLive (h : Owned names s)
    (hb : s.journal.strokes.countP Stroke.isCreate < 2 ^ 64) :
    s.counters.markersLive.toNat = s.screen.markers.size := by
  have hsum := h.tidy.countP_isCreate
  have hle : s.counters.markersReleased ≤ s.counters.markersCreated := by
    rw [h.created, h.released, UInt64.le_iff_toNat_le, ← h.minted]
    simp only [UInt64.toNat_ofNat']
    omega
  rw [Counters.markersLive, if_pos hle, UInt64.toNat_sub_of_le _ _ hle, h.created, h.released,
    ← h.minted]
  simp only [UInt64.toNat_ofNat', screen]
  omega

/-- The live markers are those that are remembered, each once. -/
theorem Owned.perm_markersOf (h : Owned names s) :
    s.screen.markers.keys.Perm (markersOf s.cache.pairs) := by
  refine (List.perm_ext_iff_of_nodup s.screen.markers.keys_nodup
    (h.nodup_markersOf (List.Sublist.refl _))).mpr fun m => ?_
  rw [Table.mem_keys_iff, mem_markersOf]
  constructor
  · rintro ⟨k, hk⟩
    obtain ⟨entry, he, hm⟩ := mem_markersOf?_iff.mp ((h.mem_iff k.editor m).mpr ⟨k, hk, rfl⟩)
    exact ⟨k.editor, entry, Table.get?_eq_some_iff.mp he, hm⟩
  · rintro ⟨e, entry, he, hm⟩
    obtain ⟨k, hk, -⟩ := (h.mem_iff e m).mp
      (mem_markersOf?_iff.mpr ⟨entry, Table.get?_eq_some_iff.mpr he, hm⟩)
    exact ⟨k, hk⟩

/-- The last stroke of a drawing publishes issues or withdraws them. -/
theorem getLast?_render {e : EditorId} {entry : Entry} (he : s.entry? e = some entry)
    (settings : Settings) (host : Host) :
    (s.render settings host e).journal.strokes.getLast? =
      some (if host.active = some e then .publish entry.file entry.issues
        else .withdraw entry.file) := by
  have hdrawn := fun s' (h : s.Alike s') =>
    (h.trans (alike_showStatus settings host e s')).exists_entry he
  have hshow : ∀ s', s.Alike s' →
      ((s'.showStatus settings host e).showIssues host e).journal.strokes.getLast? =
        some (if host.active = some e then .publish entry.file entry.issues
          else .withdraw entry.file) := by
    intro s' h
    obtain ⟨markers, he'⟩ := hdrawn s' h
    simp only [showIssues, he']
    split <;> simp [draw, Entry.issues]
  simp only [render, he]
  exact hshow _ <| (alike_releaseOf e s).trans <|
    (alike_mark host e .error entry.marked.errors _).trans <|
    (alike_mark host e .warning entry.marked.warnings _).trans (alike_note rfl _)

/-- The books on markers are in order: a marker is live when it is released, no editor ever has two
live markers of one severity, the old ones are gone when new ones are made, and the live ones are
those that are remembered, as many as are counted. -/
structure MarkersBalanced (s : Session) : Prop where
  release_live : ∀ past m future, s.journal.strokes = past ++ .release m :: future →
    ∃ k, (Screen.after past).live? m = some k
  release_once : (s.journal.strokes.filterMap Stroke.released?).Nodup
  one_each : ∀ past future, s.journal.strokes = past ++ future → ∀ m m' k k',
    (Screen.after past).live? m = some k → (Screen.after past).live? m' = some k' →
      k.editor = k'.editor → k.severity = k'.severity → m = m'
  make_apart : ∀ past e marker severity lines future,
    s.journal.strokes = past ++ .create e marker severity lines :: future →
      ∀ m k, (Screen.after past).live? m = some k → k.editor = e →
        past.getLast? = some (.create e m k.severity k.lines)
  remembered : s.screen.markers.keys.Perm (markersOf s.cache.pairs)
  owner : ∀ e entry m, s.entry? e = some entry → m ∈ entry.markers →
    ∃ k, s.screen.live? m = some k ∧ k.editor = e
  counted : s.counters.markersLive.toNat = s.screen.markers.size

theorem Owned.markersBalanced (h : Owned names s)
    (hb : s.journal.strokes.countP Stroke.isCreate < 2 ^ 64) : s.MarkersBalanced where
  release_live past m future hs := h.tidy past _ future hs
  release_once := h.tidy.nodup_released
  one_each past future hs m m' k k' hk hk' :=
    (Tidy.of_append (hs ▸ h.tidy)).eq_of_severity_eq hk hk'
  make_apart past e marker severity lines future hs m k hk hke := by
    obtain ⟨-, hlast⟩ := (h.tidy past _ future hs).2 m k hk hke
    have hsev : k.severity = .error :=
      congrArg Marker.severity (Option.some.inj (hk.symm.trans (Screen.live?_of_getLast? hlast)))
    rw [hlast, hsev]
  remembered := h.perm_markersOf
  owner e entry m he hm := (h.mem_iff e m).mp (mem_markersOf?_iff.mpr ⟨entry, he, hm⟩)
  counted := h.markersLive hb

/-- Along every course the host is told to release live markers only, and each of them once. No
marker is made for an editor before those of its last drawing are gone, where a drawing ends with a
stroke that is no marker. What is live is what is remembered, and nothing once the service has
ended. The names of the markers are up to the host as long as it gives none twice. -/
theorem markers_balanced (v : Service) (names : Nat → MarkerId) (hinj : Function.Injective names)
    (host : Host) (hh : host.marker = names) (moves : List Scene.Move)
    (hm : ∀ m ∈ moves, m.Within (·.marker = names))
    (hb : ((Scene.opening v host).play moves).session.journal.strokes.countP Stroke.isCreate <
      2 ^ 64) :
    ((Scene.opening v host).play moves).session.MarkersBalanced ∧
      (((Scene.opening v host).play moves).isDisposed = true →
        ∀ m, ((Scene.opening v host).play moves).session.screen.live? m = none) ∧
      ∀ (s : Session) (host : Host) (e : EditorId), s.knows e = true →
        ∃ stroke, (s.render v.settings host e).journal.strokes.getLast? = some stroke ∧
          stroke.isMarking = false := by
  have howned : Owned names ((Scene.opening v host).play moves).session :=
    (owned_kept v hinj).play hh (owned_initial names) hm (by simp)
  refine ⟨howned.markersBalanced hb, ?_, ?_⟩
  · intro hd m
    by_contra hne
    obtain ⟨k, hk⟩ := Option.ne_none_iff_exists'.mp hne
    have hmem := (howned.mem_iff k.editor m).mpr ⟨k, hk, rfl⟩
    rw [markersOf?_of_none (Scene.entry?_of_isDisposed hd _)] at hmem
    exact List.not_mem_nil hmem
  · intro s host e hk
    obtain ⟨entry, he⟩ := knows_iff.mp hk
    refine ⟨_, getLast?_render he v.settings host, ?_⟩
    split <;> rfl

/-- A file is checked and found to have an error, is drawn a second time, and the service ends: two
markers are made, and both are released. -/
theorem markers_balanced_of_error :
    let s := ((Scene.opening (.ofSettings .default) (.script "let")).play
      [.call .activate, .finish ⟨1⟩ (.ok [⟨3, 1, "unused", none, 2⟩]), .call .handleNext,
        .call (.request ⟨0⟩ false), .dispose]).session
    s.MarkersBalanced ∧ s.journal.strokes.filterMap Stroke.released? = [⟨0⟩, ⟨1⟩] ∧
      ∀ m, s.screen.live? m = none := by
  have h := markers_balanced (.ofSettings .default) MarkerId.mk
    (fun _ _ h => congrArg MarkerId.number h) (.script "let") rfl
    [.call .activate, .finish ⟨1⟩ (.ok [⟨3, 1, "unused", none, 2⟩]), .call .handleNext,
      .call (.request ⟨0⟩ false), .dispose]
    (by simp [Scene.Move.Within]) (by decide +kernel)
  exact ⟨h.1, by decide +kernel, h.2.1 (by decide +kernel)⟩

end Session

end Gutter
