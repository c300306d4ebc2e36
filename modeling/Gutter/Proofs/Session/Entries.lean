import Gutter.Proofs.Table
import Gutter.Session.Service

/-!
# What is remembered after each step

How the elementary steps of a session change what is remembered of an editor.
-/

namespace Gutter.Session

variable {s : Session} {e x : EditorId}

/-! ## Looking up an editor -/

@[simp] theorem entry?_initial (e : EditorId) : initial.entry? e = none := rfl

@[simp] theorem entry?_draw (strokes : List Stroke) (s : Session) :
    Session.entry? (s.draw strokes) e = s.entry? e := rfl

@[simp] theorem entry?_note (event : Log.Event) (s : Session) :
    Session.entry? (s.note event) e = s.entry? e := rfl

@[simp] theorem entry?_count (f : Counters → Counters) (s : Session) :
    Session.entry? (s.count f) e = s.entry? e := rfl

@[simp] theorem entry?_release (markers : List MarkerId) (s : Session) :
    Session.entry? (s.release markers) e = s.entry? e := rfl

theorem entry?_edit (e : EditorId) (f : Entry → Entry) (s : Session) (x : EditorId) :
    Session.entry? (s.edit e f) x = if x = e then (s.entry? x).map f else s.entry? x :=
  Table.get?_modify _ _ _ _

@[simp] theorem entry?_edit_self (e : EditorId) (f : Entry → Entry) (s : Session) :
    Session.entry? (s.edit e f) e = (s.entry? e).map f := by
  rw [entry?_edit, if_pos rfl]

theorem entry?_edit_of_ne (h : x ≠ e) (f : Entry → Entry) (s : Session) :
    Session.entry? (s.edit e f) x = s.entry? x := by
  rw [entry?_edit, if_neg h]

theorem entry?_ensure (e : EditorId) (file : Path) (s : Session) (x : EditorId) :
    Session.entry? (s.ensure e file) x =
      if x = e then some ((s.entry? e).getD (.new file)) else s.entry? x :=
  Table.get?_ensure _ _ _ _

@[simp] theorem entry?_ensure_self (e : EditorId) (file : Path) (s : Session) :
    Session.entry? (s.ensure e file) e = some ((s.entry? e).getD (.new file)) := by
  rw [entry?_ensure, if_pos rfl]

theorem entry?_ensure_of_some {entry : Entry} (he : s.entry? e = some entry) (file : Path) :
    Session.entry? (s.ensure e file) e = some entry := by
  rw [entry?_ensure_self, he, Option.getD_some]

@[simp] theorem entry?_close (keep : EditorId → Bool) (s : Session) (x : EditorId) :
    Session.entry? (s.close keep) x = if keep x then s.entry? x else none :=
  Table.get?_filterKeys _ _ _

theorem entry?_setTimer (settings : Settings) (e : EditorId) (s : Session) (x : EditorId) :
    Session.entry? (s.setTimer settings e) x =
      if x = e then (s.entry? x).map (.setTimer (some s.nextTimer)) else s.entry? x :=
  entry?_edit e _ s x

theorem entry?_start (settings : Settings) (target : Target) (text : String) (s : Session)
    (x : EditorId) :
    Session.entry? (s.start settings target text) x =
      if x = target.editor then (s.entry? x).map (.start s.clock.next) else s.entry? x :=
  entry?_edit target.editor _ s x

theorem knows_iff : s.knows e = true ↔ ∃ entry, s.entry? e = some entry :=
  Option.isSome_iff_exists

theorem knows_eq_false_iff : s.knows e = false ↔ s.entry? e = none :=
  Option.isSome_eq_false_iff.trans Option.isNone_iff_eq_none

theorem forall_entry_of_some {P : Entry → Prop} {entry : Entry} (he : s.entry? e = some entry)
    (h : P entry) : ∀ other, s.entry? e = some other → P other := by
  intro other ho
  obtain rfl := Option.some.inj (he.symm.trans ho)
  exact h

theorem forall_entry_ensure {P : Entry → Prop} {file : Path} (hnew : P (.new file))
    (h : ∀ entry, s.entry? e = some entry → P entry) :
    ∀ entry, Session.entry? (s.ensure e file) e = some entry → P entry := by
  refine forall_entry_of_some (entry?_ensure_self e file s) ?_
  cases he : s.entry? e with
  | none => exact hnew
  | some entry => exact h entry he

theorem knows_close_iff {keep : EditorId → Bool} :
    Session.knows (s.close keep) e = true ↔ keep e = true ∧ s.knows e = true := by
  rw [knows_iff, knows_iff, entry?_close]
  cases keep e <;> simp

theorem ensure_of_some {entry : Entry} (he : s.entry? e = some entry) (file : Path) :
    s.ensure e file = s := by
  have hk : s.cache.contains e = true := knows_iff.mpr ⟨entry, he⟩
  rw [ensure, Table.ensure, if_pos hk]

/-! ## Drawing -/

theorem entry?_releaseOf (e : EditorId) (s : Session) (x : EditorId) :
    Session.entry? (s.releaseOf e) x =
      if x = e then (s.entry? x).map .takeMarkers else s.entry? x := by
  unfold releaseOf
  split
  · next h =>
    split
    · next hx => rw [hx, h]; rfl
    · rfl
  · simp [entry?_edit]

theorem entry?_mark (host : Host) (e : EditorId) (severity : Severity) (lines : List UInt64)
    (s : Session) (x : EditorId) :
    Session.entry? (s.mark host e severity lines) x =
      if x = e ∧ lines ≠ [] then (s.entry? x).map (.addMarker (host.marker s.minted))
      else s.entry? x := by
  unfold mark
  by_cases h : lines = []
  · simp [h]
  · simp only [List.isEmpty_iff, h, ite_false, ne_eq, not_false_eq_true, and_true]
    exact entry?_edit e _ (s.draw _) x

end Gutter.Session
