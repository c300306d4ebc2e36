import Gutter.Proofs.Issues
import Gutter.Proofs.Session.Drawing

/-!
# What the gutter shows

The markers in the gutter of an editor are those of its last completed check. What a check has found
is stored and drawn in one go, so the two agree whenever the service is not at work.
-/

namespace Gutter

namespace Session

variable {names : Nat → MarkerId} {s s' : Session} {e x : EditorId}

/-! ## What is to be shown -/

/-- The markers that an editor should have in its gutter: none if it is not remembered. -/
def gutter (s : Session) (e : EditorId) : List Marker :=
  ((s.entry? e).map fun entry => entry.marked.gutter e).getD []

theorem gutter_of_entry {entry : Entry} (he : s.entry? e = some entry) :
    s.gutter e = entry.marked.gutter e := by
  rw [gutter, he]
  rfl

theorem gutter_congr (he : s'.entry? e = s.entry? e) : s'.gutter e = s.gutter e := by
  rw [gutter, gutter, he]

theorem Alike.gutter (h : s.Alike s') (e : EditorId) : s'.gutter e = s.gutter e := by
  have hbare : ∀ t : Session, t.gutter e =
      ((t.bare? e).map fun entry => entry.marked.gutter e).getD [] := by
    intro t
    rw [Session.gutter, bare?, Option.map_map]
    rfl
  rw [hbare, hbare, h.bare]

theorem gutter_edit {f : Entry → Entry} (h : ∀ entry, (f entry).findings = entry.findings)
    (x e : EditorId) (s : Session) : Session.gutter (s.edit x f) e = s.gutter e := by
  have hmarked : ∀ entry, (f entry).marked = entry.marked := by
    intro entry
    rw [Entry.marked, Entry.marked, h]
  rw [gutter, gutter, entry?_edit]
  split
  · cases s.entry? e <;> simp [hmarked]
  · rfl

theorem gutter_ensure (x : EditorId) (file : Path) (e : EditorId) (s : Session) :
    Session.gutter (s.ensure x file) e = s.gutter e := by
  rw [gutter, gutter, entry?_ensure]
  split
  · next h =>
    subst h
    cases s.entry? e <;> rfl
  · rfl

def Painted (e : EditorId) (s : Session) : Prop :=
  (s.markersOf? e).map s.screen.live? = (s.gutter e).map some

/-! ## Steps -/

theorem painted_of_none (he : s.entry? e = none) : s.Painted e := by
  rw [Painted, markersOf?_of_none he, gutter, he]
  rfl

theorem Painted.of_live? (h : s.Painted e) (hm : s'.markersOf? e = s.markersOf? e)
    (hl : ∀ m ∈ s.markersOf? e, s'.screen.live? m = s.screen.live? m)
    (hg : s'.gutter e = s.gutter e) : s'.Painted e := by
  rw [Painted, hm, hg, List.map_congr_left hl]
  exact h

theorem Unmarked.live? (h : s.Unmarked s') (m : MarkerId) :
    s'.screen.live? m = s.screen.live? m := by
  obtain ⟨plain, hplain, hs⟩ := h.strokes
  rw [screen, hs, Screen.after_append, live?_draw_of_not_isMarking hplain, screen]

theorem Painted.of_unmarked (h : s.Painted e) (hu : s.Unmarked s')
    (hg : s'.gutter e = s.gutter e) : s'.Painted e :=
  h.of_live? (congrFun hu.markers e) (fun m _ => hu.live? m) hg

theorem Owned.eq_of_mem (h : Owned names s) {m : MarkerId} (hx : m ∈ s.markersOf? x)
    (he : m ∈ s.markersOf? e) : x = e := by
  obtain ⟨k, hk, hkx⟩ := h.exists_live hx
  obtain ⟨k', hk', hke⟩ := h.exists_live he
  obtain rfl := Option.some.inj (hk.symm.trans hk')
  exact hkx.symm.trans hke

theorem Painted.close (h : s.Painted e) (ho : Owned names s) (keep : EditorId → Bool) :
    Painted e (s.close keep) := by
  cases hk : keep e with
  | false => exact painted_of_none (by rw [entry?_close, hk]; rfl)
  | true =>
      have hr := releases_close ho keep
      refine h.of_live? (by rw [hr.markers, hk]; rfl) (fun m hm => ?_)
        (gutter_congr (by rw [entry?_close, if_pos hk]))
      rw [hr.live?, if_neg]
      intro hgone
      obtain ⟨x, hx, hmx⟩ := (hr.mem_iff m).mp hgone
      rw [ho.eq_of_mem hmx hm, hk] at hx
      cases hx

/-- After a drawing the gutter of the editor is right, and the other gutters stay right. -/
theorem painted_render {host : Host} (ho : Owned names s) (hinj : Function.Injective names)
    (hnames : host.marker = names) (settings : Settings)
    (h : ∀ x, x ≠ e → s.Painted x) (x : EditorId) :
    Painted x (s.render settings host e) := by
  subst hnames
  cases he : s.entry? e with
  | none =>
      have hrender : s.render settings host e = s := by simp only [render, he]
      rw [hrender]
      by_cases hx : x = e
      · exact painted_of_none (hx ▸ he)
      · exact h x hx
  | some entry =>
      have hdraws := draws_render settings host he
      have hentry := hdraws.entries x
      by_cases hx : x = e
      · subst hx
        rw [if_pos rfl] at hentry
        rw [Painted, markersOf?_of_entry hentry, gutter_of_entry hentry]
        exact hdraws.map_live? hinj
      · rw [if_neg hx] at hentry
        refine (h x hx).of_live? (by rw [markersOf?, hentry, markersOf?]) (fun m hm => ?_)
          (gutter_congr hentry)
        have hnew : m ∉ s.nextNames host (entry.marked.gutter e).length := by
          intro hmem
          obtain ⟨i, hi, -, rfl⟩ := mem_nextNames.mp hmem
          obtain ⟨k, hk, -⟩ := ho.exists_live hm
          obtain ⟨stroke, hstroke, hs⟩ := Screen.exists_stroke_of_live? hk
          obtain ⟨j, hj, hij⟩ := ho.named stroke hstroke _ hs
          rw [hinj hij] at hi
          exact absurd hj (Nat.not_lt.mpr hi)
        have hold : m ∉ entry.markers := by
          intro hmem
          rw [← markersOf?_of_entry he] at hmem
          exact hx (ho.eq_of_mem hm hmem)
        rw [hdraws.live?_of_notMem hnew, if_neg hold]

/-! ## Along a course -/

/-- The markers are owned, and every gutter shows what it should. -/
structure Shown (names : Nat → MarkerId) (s : Session) : Prop extends Owned names s where
  painted : ∀ e, s.Painted e

theorem Shown.of_unmarked (h : Shown names s) (hu : s.Unmarked s')
    (hg : ∀ e, s'.gutter e = s.gutter e) : Shown names s' :=
  ⟨h.toOwned.of_unmarked hu, fun e => (h.painted e).of_unmarked hu (hg e)⟩

theorem shown_keptByEvents (v : Service) (hinj : Function.Injective names) :
    KeptByEvents v (·.marker = names) (Shown names) where
  deed hh hd h := by
    refine ⟨(owned_keptByEvents v hinj).deed hh hd h.toOwned, fun e => ?_⟩
    cases hd with
    | note hn => exact (h.painted e).of_unmarked (unmarked_note _ _) ((alike_note hn _).gutter e)
    | soil x =>
        exact (h.painted e).of_unmarked (unmarked_edit (f := .soil) (fun _ => rfl) x _)
          (gutter_edit (f := .soil) (fun _ => rfl) x e _)
    | meet =>
        exact (h.painted e).of_unmarked
          (unmarked_of_markers (markersOf?_ensure _ _ _) rfl rfl rfl rfl) (gutter_ensure _ _ e _)
    | setTimer =>
        exact (h.painted e).of_unmarked (unmarked_setTimer _ _ _)
          (gutter_edit (f := .setTimer _) (fun _ => rfl) _ e _)
    | start =>
        exact (h.painted e).of_unmarked (unmarked_start _ _ _ _)
          (gutter_edit (f := .start _) (fun _ => rfl) _ e _)
    | render x => exact painted_render h.toOwned hinj hh v.settings (fun y _ => h.painted y) e
    | showStatus x =>
        exact (h.painted e).of_unmarked (unmarked_showStatus v.settings _ x _)
          ((alike_showStatus v.settings _ x _).gutter e)
    | clearStatus =>
        exact (h.painted e).of_unmarked (unmarked_draw (by simp [Stroke.isMarking]) _)
          ((alike_draw _ _).gutter e)
    | tally n =>
        exact (h.painted e).of_unmarked (unmarked_of_markers rfl rfl rfl rfl rfl)
          ((alike_countEvicted n _).gutter e)
  ignore _ _ h := h.of_unmarked (unmarked_of_markers rfl rfl rfl rfl rfl) fun _ => rfl
  takeTimer _ _ _ h := h.of_unmarked
    (unmarked_of_markers (markersOf?_edit (f := .setTimer none) (fun _ => rfl) _ _) rfl rfl rfl rfl)
    fun e => gutter_edit (f := .setTimer none) (fun _ => rfl) _ e _
  disregard _ _ _ h := h.of_unmarked (unmarked_of_markers rfl rfl rfl rfl rfl) fun _ => rfl
  abandon _ _ h := h.of_unmarked
    (unmarked_of_markers (markersOf?_edit (f := .fail) (fun _ => rfl) _ _) rfl rfl rfl rfl)
    fun e => gutter_edit (f := .fail) (fun _ => rfl) _ e _
  store := by
    intro host s e generation records rest hh hq hw h
    refine ⟨(owned_keptByEvents v hinj).store hh hq hw h.toOwned, fun x => ?_⟩
    -- what is stored is drawn at once, so only the other gutters have to be right before
    have hstore := unmarked_store e generation
      (.ofRecords records v.settings.severityLevel) s
    refine painted_render (h.toOwned.of_unmarked hstore) hinj hh v.settings (fun y hy => ?_) x
    exact (h.painted y).of_unmarked hstore (gutter_congr (entry?_edit_of_ne hy _ _))

theorem shown_kept (v : Service) (hinj : Function.Injective names) :
    Kept v (·.marker = names) [] (Shown names) where
  deed := (shown_keptByEvents v hinj).deed
  handleNext := (shown_keptByEvents v hinj).handleNext
  close _ h := ⟨owned_close h.toOwned _, fun e => (h.painted e).close h.toOwned _⟩
  refocus x _ h := h.of_unmarked (unmarked_refocus _ _ x _) (alike_refocus _ _ x _).gutter
  blank h := h.of_unmarked (unmarked_draw (by simp [Stroke.isMarking]) _) fun _ => rfl
  pass ms h := h.of_unmarked (unmarked_of_markers rfl rfl rfl rfl rfl) fun _ => rfl
  ring token h := h.of_unmarked (unmarked_ring token _)
    fun e => gutter_congr (entry?_ring token _ e)
  finish generation result h := h.of_unmarked (unmarked_finish generation result _)
    fun e => gutter_congr (entry?_finish generation result _ e)

/-- The gutters show what is remembered: no marker before the first completed check, and then one on
the lines with errors and after it one on the other lines with issues, as far as there are such
lines. -/
structure GutterShown (s : Session) : Prop where
  remembered : ∀ e entry, s.entry? e = some entry → entry.markers.Nodup ∧
    ∀ m, m ∈ entry.markers ↔ ∃ k, s.screen.live? m = some k ∧ k.editor = e
  unchecked : ∀ e entry, s.entry? e = some entry → entry.findings = none →
    ∀ m k, s.screen.live? m = some k → k.editor ≠ e
  checked : ∀ e entry findings, s.entry? e = some entry → entry.findings = some findings →
    ∃ errors warnings, findings.byLine.Marks errors warnings ∧
      entry.markers.map s.screen.live? =
        (MarkedLines.gutter e ⟨errors, warnings⟩).map some
  forgotten : ∀ e, s.entry? e = none → ∀ m k, s.screen.live? m = some k → k.editor ≠ e

theorem Shown.not_live (h : Shown names s) (he : s.markersOf? e = []) {m : MarkerId}
    {k : Marker} (hk : s.screen.live? m = some k) : k.editor ≠ e := by
  intro hke
  have hmem := (h.mem_iff e m).mpr ⟨k, hk, hke⟩
  rw [he] at hmem
  exact List.not_mem_nil hmem

theorem Shown.gutterShown (h : Shown names s) : s.GutterShown where
  remembered e entry he := by
    rw [← markersOf?_of_entry he]
    exact ⟨h.nodup e, h.mem_iff e⟩
  unchecked e entry he hf m k hk := by
    have hp := h.painted e
    have hgutter : entry.marked.gutter e = [] := by
      rw [Entry.marked, hf]
      rfl
    rw [Painted, gutter_of_entry he, hgutter] at hp
    exact h.not_live (List.map_eq_nil_iff.mp hp) hk
  checked e entry findings he hf := by
    refine ⟨_, _, MarkedLines.marks_ofLineMap findings.byLine, ?_⟩
    have hp := h.painted e
    rw [Painted, markersOf?_of_entry he, gutter_of_entry he, Entry.marked, hf] at hp
    exact hp
  forgotten e he m k hk := h.not_live (markersOf?_of_none he) hk

/-- Along every course the gutters show what the last completed checks have found, and nothing for
an editor that was never checked or is not remembered. The names of the markers are up to the host
as long as it gives none twice. -/
theorem gutter_shown (v : Service) (names : Nat → MarkerId) (hinj : Function.Injective names)
    (host : Host) (hh : host.marker = names) (moves : List Scene.Move)
    (hm : ∀ m ∈ moves, m.Within (·.marker = names)) :
    ((Scene.opening v host).play moves).session.GutterShown := by
  have hinit : Shown names .initial := ⟨owned_initial names, fun e => painted_of_none rfl⟩
  have hshown : Shown names ((Scene.opening v host).play moves).session :=
    (shown_kept v hinj).play hh hinit hm (by simp)
  exact hshown.gutterShown

/-- A check finds an error on the second line, and warnings there and on the fifth line. The first
marker shows the second line, and the second marker the fifth. -/
theorem gutter_shown_of_mixed :
    let s := ((Scene.opening (.ofSettings .default) (.script "let")).play
      [.call .activate, .finish ⟨1⟩ (.ok [⟨5, 1, "long", none, 1⟩, ⟨2, 1, "unused", none, 1⟩,
        ⟨2, 4, "undefined", none, 2⟩]), .call .handleNext]).session
    s.GutterShown ∧ s.markersOf? ⟨0⟩ = [⟨0⟩, ⟨1⟩] ∧
      s.screen.live? ⟨0⟩ = some ⟨⟨0⟩, .error, [1]⟩ ∧
      s.screen.live? ⟨1⟩ = some ⟨⟨0⟩, .warning, [4]⟩ := by
  refine ⟨gutter_shown (.ofSettings .default) MarkerId.mk
    (fun _ _ h => congrArg MarkerId.number h) (.script "let") rfl _
    (by simp [Scene.Move.Within]), ?_, ?_, ?_⟩ <;> decide +kernel

end Session

end Gutter
