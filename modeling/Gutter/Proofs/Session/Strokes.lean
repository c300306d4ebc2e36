import Gutter.Proofs.Table
import Gutter.Session.Screen
import Mathlib.Data.List.Induction

/-!
# Tidy drawings

A list of strokes is tidy when each stroke is allowed after the strokes before it: only a live
marker is released, a new marker has a name that no stroke has mentioned, and it is made when its
editor has no live marker, or right after the error marker of the same drawing. Two drawings never
touch, for each ends with publishing or withdrawing the issues of its document.
-/

namespace Gutter

namespace Screen

/-- The screen after some strokes, where nothing was drawn before. -/
def after (strokes : List Stroke) : Screen := blank.draw strokes

@[simp] theorem after_nil : after [] = blank := rfl

theorem after_append (past future : List Stroke) :
    after (past ++ future) = (after past).draw future :=
  List.foldl_append

theorem after_concat (past : List Stroke) (stroke : Stroke) :
    after (past ++ [stroke]) = (after past).apply stroke :=
  after_append past [stroke]

def live? (s : Screen) (marker : MarkerId) : Option Marker := s.markers.get? marker

@[simp] theorem live?_blank (marker : MarkerId) : blank.live? marker = none := rfl

@[simp] theorem live?_create (s : Screen) (e : EditorId) (marker : MarkerId) (severity : Severity)
    (lines : List UInt64) (x : MarkerId) :
    (s.apply (.create e marker severity lines)).live? x =
      if x = marker then some ⟨e, severity, lines⟩ else s.live? x :=
  Table.get?_insert _ _ _ _

@[simp] theorem live?_release (s : Screen) (marker x : MarkerId) :
    (s.apply (.release marker)).live? x = if x = marker then none else s.live? x :=
  Table.get?_erase _ _ _

theorem live?_draw_release (markers : List MarkerId) (s : Screen) (x : MarkerId) :
    (s.draw (markers.map .release)).live? x = if x ∈ markers then none else s.live? x := by
  induction markers generalizing s with
  | nil => rfl
  | cons m markers ih =>
      change ((s.apply (.release m)).draw (markers.map .release)).live? x = _
      rw [ih, live?_release]
      by_cases hx : x = m <;> simp [hx]

end Screen

namespace Stroke

def isMarking : Stroke → Bool
  | .create .. | .release _ => true
  | _ => false

def isCreate : Stroke → Bool
  | .create .. => true
  | _ => false

def isRelease : Stroke → Bool
  | .release _ => true
  | _ => false

def marker? : Stroke → Option MarkerId
  | .create _ marker _ _ | .release marker => some marker
  | _ => none

def released? : Stroke → Option MarkerId
  | .release marker => some marker
  | _ => none

/-- The host may be told this after the strokes of the past. -/
def Allowed (past : List Stroke) : Stroke → Prop
  | .create e marker severity _ =>
    (∀ stroke ∈ past, stroke.marker? ≠ some marker) ∧
      ∀ m k, (Screen.after past).live? m = some k → k.editor = e →
        severity = .warning ∧ past.getLast? = some (.create e m .error k.lines)
  | .release marker => ∃ k, (Screen.after past).live? marker = some k
  | _ => True

theorem markers_apply_of_not_isMarking {stroke : Stroke} (h : stroke.isMarking = false)
    (s : Screen) : (s.apply stroke).markers = s.markers := by
  cases stroke <;> first | rfl | simp [isMarking] at h

theorem allowed_of_not_isMarking {stroke : Stroke} (h : stroke.isMarking = false)
    (past : List Stroke) : stroke.Allowed past := by
  cases stroke <;> trivial

end Stroke

theorem Screen.live?_of_getLast? {past : List Stroke} {e : EditorId} {marker : MarkerId}
    {severity : Severity} {lines : List UInt64}
    (h : past.getLast? = some (.create e marker severity lines)) :
    (after past).live? marker = some ⟨e, severity, lines⟩ := by
  obtain ⟨earlier, rfl⟩ := List.getLast?_eq_some_iff.mp h
  rw [after_concat, live?_create, if_pos rfl]

/-- Only a marker that was made is live. -/
theorem Screen.exists_stroke_of_live? {strokes : List Stroke} {m : MarkerId} {k : Marker}
    (h : (after strokes).live? m = some k) : ∃ stroke ∈ strokes, stroke.marker? = some m := by
  induction strokes using List.reverseRecOn generalizing k with
  | nil => simp at h
  | append_singleton past stroke ih =>
      have hpast : ∀ k, (after past).live? m = some k →
          ∃ x ∈ past ++ [stroke], x.marker? = some m := by
        intro k hk
        obtain ⟨x, hx, hm⟩ := ih hk
        exact ⟨x, by simp [hx], hm⟩
      rw [after_concat] at h
      cases stroke with
      | create e marker severity lines =>
          rw [live?_create] at h
          split at h
          · next hm => exact ⟨_, List.mem_concat_self, congrArg some hm.symm⟩
          · exact hpast k h
      | release marker =>
          rw [live?_release] at h
          split at h
          · cases h
          · exact hpast k h
      | _ => exact hpast k h

theorem Screen.live?_eq_none_of_forall {strokes : List Stroke} {m : MarkerId}
    (h : ∀ stroke ∈ strokes, stroke.marker? ≠ some m) : (after strokes).live? m = none := by
  by_contra hne
  obtain ⟨k, hk⟩ := Option.ne_none_iff_exists'.mp hne
  obtain ⟨stroke, hmem, hm⟩ := exists_stroke_of_live? hk
  exact h stroke hmem hm

/-- Each stroke is allowed after those before it. -/
def Tidy (strokes : List Stroke) : Prop :=
  ∀ past stroke future, strokes = past ++ stroke :: future → stroke.Allowed past

theorem tidy_nil : Tidy [] := by
  intro past stroke future h
  simp at h

theorem tidy_concat {past : List Stroke} {stroke : Stroke} :
    Tidy (past ++ [stroke]) ↔ Tidy past ∧ stroke.Allowed past := by
  constructor
  · intro h
    refine ⟨?_, h past stroke [] rfl⟩
    rintro p x future rfl
    exact h p x (future ++ [stroke]) (by simp)
  · rintro ⟨h, hs⟩ p x future he
    rcases List.eq_nil_or_concat future with rfl | ⟨future, last, rfl⟩
    · obtain ⟨rfl, hx⟩ := List.append_inj' he rfl
      obtain rfl : stroke = x := by simpa using hx
      exact hs
    · have he' : past ++ [stroke] = (p ++ x :: future) ++ [last] := by simpa using he
      obtain ⟨rfl, -⟩ := List.append_inj' he' rfl
      exact h p x future rfl

namespace Tidy

variable {strokes : List Stroke}

theorem of_append {past future : List Stroke} (h : Tidy (past ++ future)) : Tidy past := by
  rintro p x rest rfl
  exact h p x (rest ++ future) (by simp)

theorem append_plain (h : Tidy strokes) {future : List Stroke}
    (hf : ∀ stroke ∈ future, stroke.isMarking = false) : Tidy (strokes ++ future) := by
  induction future using List.reverseRecOn with
  | nil => simpa using h
  | append_singleton future stroke ih =>
      rw [← List.append_assoc, tidy_concat]
      refine ⟨ih fun x hx => hf x (by simp [hx]), ?_⟩
      exact Stroke.allowed_of_not_isMarking (hf stroke (by simp)) _

/-- Different live markers may be released in any order. -/
theorem append_release (h : Tidy strokes) {markers : List MarkerId} (hn : markers.Nodup)
    (hl : ∀ m ∈ markers, ∃ k, (Screen.after strokes).live? m = some k) :
    Tidy (strokes ++ markers.map .release) := by
  induction markers using List.reverseRecOn with
  | nil => simpa using h
  | append_singleton markers m ih =>
      obtain ⟨hn, -, hm⟩ := List.nodup_append.mp hn
      have hm' : m ∉ markers := fun hmem => hm m hmem m (by simp) rfl
      rw [List.map_append, ← List.append_assoc]
      refine tidy_concat.mpr ⟨ih hn fun x hx => hl x (by simp [hx]), ?_⟩
      obtain ⟨k, hk⟩ := hl m (by simp)
      refine ⟨k, ?_⟩
      rw [Screen.after_append, Screen.live?_draw_release, if_neg hm', hk]

/-- An editor has at most one live marker of each severity. -/
theorem eq_of_severity_eq (h : Tidy strokes) {m m' : MarkerId} {k k' : Marker}
    (hk : (Screen.after strokes).live? m = some k)
    (hk' : (Screen.after strokes).live? m' = some k')
    (he : k.editor = k'.editor) (hs : k.severity = k'.severity) : m = m' := by
  induction strokes using List.reverseRecOn generalizing m m' k k' with
  | nil => simp at hk
  | append_singleton past stroke ih =>
      obtain ⟨hpast, hallowed⟩ := tidy_concat.mp h
      rw [Screen.after_concat] at hk hk'
      cases stroke with
      | create e marker severity lines =>
          -- an older marker of the editor is an error marker, and the new one a warning marker
          have hold : ∀ m k, (Screen.after past).live? m = some k → k.editor = e →
              severity ≠ k.severity := by
            intro m k hm hke
            obtain ⟨rfl, hlast⟩ := hallowed.2 m k hm hke
            have hk := hm.symm.trans (Screen.live?_of_getLast? hlast)
            have hsev : k.severity = .error := congrArg Marker.severity (Option.some.inj hk)
            simp [hsev]
          rw [Screen.live?_create] at hk hk'
          split at hk <;> split at hk'
          · next hm hm' => exact hm.trans hm'.symm
          · obtain rfl := Option.some.inj hk
            exact absurd hs (hold m' k' hk' he.symm)
          · obtain rfl := Option.some.inj hk'
            exact absurd hs.symm (hold m k hk he)
          · exact ih hpast hk hk' he hs
      | release marker =>
          rw [Screen.live?_release] at hk hk'
          split at hk
          · cases hk
          · split at hk'
            · cases hk'
            · exact ih hpast hk hk' he hs
      | _ => exact ih hpast hk hk' he hs

/-- A marker that was released is not live again. -/
theorem live?_eq_none_of_release (h : Tidy strokes) {m : MarkerId}
    (hm : Stroke.release m ∈ strokes) : (Screen.after strokes).live? m = none := by
  induction strokes using List.reverseRecOn with
  | nil => simp at hm
  | append_singleton past stroke ih =>
      obtain ⟨hpast, hallowed⟩ := tidy_concat.mp h
      have hm' : Stroke.release m ∈ past ∨ stroke = .release m := by simpa [eq_comm] using hm
      rw [Screen.after_concat]
      rcases hm' with hm' | rfl
      · cases stroke with
        | create e marker severity lines =>
            have hne : m ≠ marker := fun he => hallowed.1 _ hm' (congrArg some he)
            rw [Screen.live?_create, if_neg hne, ih hpast hm']
        | release marker =>
            rw [Screen.live?_release, ih hpast hm', ite_self]
        | _ => exact ih hpast hm'
      · rw [Screen.live?_release, if_pos rfl]

/-- No marker is released twice. -/
theorem nodup_released (h : Tidy strokes) : (strokes.filterMap Stroke.released?).Nodup := by
  induction strokes using List.reverseRecOn with
  | nil => exact List.nodup_nil
  | append_singleton past stroke ih =>
      obtain ⟨hpast, hallowed⟩ := tidy_concat.mp h
      rw [List.filterMap_append]
      cases stroke with
      | release marker =>
          obtain ⟨k, hk⟩ := hallowed
          refine List.nodup_append.mpr ⟨ih hpast, List.nodup_singleton _, ?_⟩
          rintro m hm m' hm' rfl
          obtain rfl := List.mem_singleton.mp hm'
          obtain ⟨stroke, hmem, hs⟩ := List.mem_filterMap.mp hm
          have hrel : stroke = .release m := by
            cases stroke <;> simp_all [Stroke.released?]
          rw [hpast.live?_eq_none_of_release (hrel ▸ hmem)] at hk
          cases hk
      | _ =>
          rw [List.filterMap_cons_none rfl, List.filterMap_nil, List.append_nil]
          exact ih hpast

/-- Of the markers made, those not released are live. -/
theorem countP_isCreate (h : Tidy strokes) :
    strokes.countP Stroke.isCreate =
      strokes.countP Stroke.isRelease + (Screen.after strokes).markers.size := by
  induction strokes using List.reverseRecOn with
  | nil => rfl
  | append_singleton past stroke ih =>
      obtain ⟨hpast, hallowed⟩ := tidy_concat.mp h
      have hcount := ih hpast
      rw [List.countP_append, List.countP_append, Screen.after_concat]
      cases stroke with
      | create e marker severity lines =>
          have hfree := Screen.live?_eq_none_of_forall hallowed.1
          have hsize := Table.size_insert_of_get?_eq_none hfree ⟨e, severity, lines⟩
          simp only [Screen.apply, hsize, List.countP_singleton, Stroke.isCreate,
            Stroke.isRelease, ite_true, Bool.false_eq_true, ite_false]
          omega
      | release marker =>
          obtain ⟨k, hk⟩ := hallowed
          have hsize := Table.size_erase_of_get?_eq_some hk
          simp only [Screen.apply, List.countP_singleton, Stroke.isCreate, Stroke.isRelease,
            ite_true, Bool.false_eq_true, ite_false]
          omega
      | _ => simpa [Screen.apply, Stroke.isCreate, Stroke.isRelease] using hcount

end Tidy

end Gutter
