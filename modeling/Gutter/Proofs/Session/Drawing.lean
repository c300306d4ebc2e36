import Gutter.Proofs.Session.Markers

/-!
# What a drawing does

Drawing an editor releases its markers, makes one for each colour that has lines, and then tells the
host about the status line and the published issues. Nothing else changes but what is counted.
-/

namespace Gutter

/-! ## Counting -/

namespace Counters

/-- What was counted here and there. -/
def add (c d : Counters) : Counters where
  runsStarted := c.runsStarted + d.runsStarted
  runsCompleted := c.runsCompleted + d.runsCompleted
  runsFailed := c.runsFailed + d.runsFailed
  staleCompletions := c.staleCompletions + d.staleCompletions
  timersScheduled := c.timersScheduled + d.timersScheduled
  markersCreated := c.markersCreated + d.markersCreated
  markersReleased := c.markersReleased + d.markersReleased
  entriesEvicted := c.entriesEvicted + d.entriesEvicted

theorem add_assoc (b c d : Counters) : (b.add c).add d = b.add (c.add d) := by
  simp [add, UInt64.add_assoc]

theorem add_comm (c d : Counters) : c.add d = d.add c := by
  simp [add, UInt64.add_comm]

theorem add_zero (c : Counters) : c.add {} = c := by
  simp [add]

theorem zero_add (c : Counters) : add {} c = c := by
  rw [add_comm, add_zero]

end Counters

/-! ## Markers to be made -/

/-- The markers that show some lines in the gutter of an editor, the errors first; there is none for
a colour without lines. -/
def MarkedLines.gutter (e : EditorId) (b : MarkedLines) : List Marker :=
  (if b.errors = [] then [] else [⟨e, .error, b.errors⟩]) ++
    if b.warnings = [] then [] else [⟨e, .warning, b.warnings⟩]

def Marker.stroke (name : MarkerId) (k : Marker) : Stroke :=
  .create k.editor name k.severity k.lines

namespace Entry

def addMarkers (names : List MarkerId) (entry : Entry) : Entry :=
  { entry with markers := entry.markers ++ names }

theorem addMarkers_nil (entry : Entry) : entry.addMarkers [] = entry := by
  simp [addMarkers]

theorem addMarkers_addMarkers (names more : List MarkerId) (entry : Entry) :
    (entry.addMarkers names).addMarkers more = entry.addMarkers (names ++ more) := by
  simp [addMarkers]

/-- The strokes at the end of a drawing: the status line, if the editor is active, and the
issues. -/
def closing (settings : Settings) (host : Host) (e : EditorId) (entry : Entry) :
    List Stroke :=
  if host.active = some e then
    [Session.statusStroke settings (((host.cursor? e).bind entry.issuesOn?).getD []),
      .publish entry.file entry.issues]
  else [.withdraw entry.file]

end Entry

namespace Session

variable {s s' s'' : Session} {host : Host} {e : EditorId} {entry : Entry} {ks more : List Marker}

def nextNames (host : Host) (n : Nat) (s : Session) : List MarkerId :=
  (List.range' s.minted n).map host.marker

@[simp] theorem length_nextNames (host : Host) (n : Nat) (s : Session) :
    (s.nextNames host n).length = n := by
  simp [nextNames]

/-- Some markers of an editor are made, and nothing else happens. -/
structure Makes (host : Host) (e : EditorId) (ks : List Marker) (s s' : Session) : Prop where
  entries : ∀ x, s'.entry? x = if x = e then
    (s.entry? x).map (.addMarkers (s.nextNames host ks.length)) else s.entry? x
  strokes : s'.journal.strokes =
    s.journal.strokes ++ List.zipWith Marker.stroke (s.nextNames host ks.length) ks
  minted : s'.minted = s.minted + ks.length
  counters : s'.counters = s.counters.add { markersCreated := UInt64.ofNat ks.length }
  log : s'.journal.log = s.journal.log
  work : s'.work = s.work

theorem makes_nil (host : Host) (e : EditorId) (s : Session) : Makes host e [] s s where
  entries x := by
    have hid : Entry.addMarkers [] = id := funext Entry.addMarkers_nil
    simp [nextNames, hid]
  strokes := by simp
  minted := rfl
  counters := s.counters.add_zero.symm
  log := rfl
  work := rfl

theorem Makes.nextNames_append (h : Makes host e ks s s') (n : Nat) :
    s.nextNames host ks.length ++ s'.nextNames host n = s.nextNames host (ks.length + n) := by
  rw [nextNames, nextNames, nextNames, h.minted, ← List.map_append, List.range'_append_1]

theorem Makes.trans (h : Makes host e ks s s') (h' : Makes host e more s' s'') :
    Makes host e (ks ++ more) s s'' where
  entries x := by
    rw [h'.entries, h.entries, List.length_append, ← h.nextNames_append]
    split
    · rw [Option.map_map]
      exact congrFun (congrArg _ (funext fun entry => entry.addMarkers_addMarkers _ _)) _
    · rfl
  strokes := by
    rw [h'.strokes, h.strokes, List.length_append, ← h.nextNames_append,
      List.zipWith_append (by simp), List.append_assoc]
  minted := by rw [h'.minted, h.minted, List.length_append, Nat.add_assoc]
  counters := by
    rw [h'.counters, h.counters, Counters.add_assoc, List.length_append, UInt64.ofNat_add]
    rfl
  log := h'.log.trans h.log
  work := h'.work.trans h.work

/-- A marker is made for the lines of a colour, unless there are none. -/
theorem makes_mark (host : Host) (e : EditorId) (severity : Severity) (lines : List UInt64)
    (s : Session) :
    Makes host e (if lines = [] then [] else [⟨e, severity, lines⟩]) s
      (s.mark host e severity lines) := by
  by_cases hl : lines = []
  · simpa [mark, hl] using makes_nil host e s
  · rw [if_neg hl]
    refine ⟨fun x => ?_, ?_, ?_, ?_, ?_, (alike_mark host e severity lines s).work⟩
    · rw [entry?_mark]
      simp only [hl, ne_eq, not_false_eq_true, and_true]
      rfl
    · rw [mark_of_ne_nil hl]
      rfl
    · simp only [mark, List.isEmpty_iff, hl, ite_false, List.length_singleton]
      rfl
    · simp [mark, hl, count, Counters.countMarker, Counters.add, draw, edit]
    · simp [mark, hl, count, draw, edit]

/-! ## The drawing -/

/-- To release markers and to make others is no more than marking. -/
theorem isMarking_of_mem_append {markers names : List MarkerId} :
    ∀ stroke ∈ markers.map Stroke.release ++ List.zipWith Marker.stroke names ks,
      stroke.isMarking = true := by
  intro stroke hmem
  rcases List.mem_append.mp hmem with hmem | hmem
  · obtain ⟨m, -, rfl⟩ := List.mem_map.mp hmem
    rfl
  · rw [← List.map_uncurry_zip_eq_zipWith] at hmem
    obtain ⟨⟨m, k⟩, -, rfl⟩ := List.mem_map.mp hmem
    rfl

/-- An editor is drawn, of which `entry` was remembered. -/
structure Draws (settings : Settings) (host : Host) (e : EditorId) (entry : Entry)
    (s s' : Session) : Prop where
  entries : ∀ x, s'.entry? x = if x = e then
    some { entry with markers := s.nextNames host (entry.marked.gutter e).length }
    else s.entry? x
  strokes : s'.journal.strokes = s.journal.strokes ++ (entry.markers.map .release ++
    List.zipWith Marker.stroke (s.nextNames host (entry.marked.gutter e).length)
      (entry.marked.gutter e) ++ entry.closing settings host e)
  minted : s'.minted = s.minted + (entry.marked.gutter e).length
  counters : s'.counters = s.counters.add
    { markersCreated := UInt64.ofNat (entry.marked.gutter e).length
      markersReleased := UInt64.ofNat entry.markers.length }
  log : s'.journal.log = s.journal.log ++ [.render e (entry.marked.gutter e).length]
  work : s'.work = s.work

theorem cursorIssues_of_entry (he : s.entry? e = some entry) (host : Host) :
    s.cursorIssues host e = ((host.cursor? e).bind entry.issuesOn?).getD [] := by
  rw [cursorIssues, he]
  cases host.cursor? e <;> rfl

/-- At the end of a drawing only the host is told something. -/
theorem showStatus_showIssues (settings : Settings) (host : Host)
    (he : s.entry? e = some entry) :
    (s.showStatus settings host e).showIssues host e = s.draw (entry.closing settings host e) := by
  have hcursor := cursorIssues_of_entry he host
  by_cases ha : host.active = some e
  · have hstatus : Session.entry? (s.draw
        [statusStroke settings (((host.cursor? e).bind entry.issuesOn?).getD [])]) e =
          some entry := he
    simp only [showStatus, showIssues, ha, ite_true, hcursor, hstatus, Entry.closing]
    simp [draw]
  · simp [showStatus, showIssues, Entry.closing, ha, he]

theorem draws_render (settings : Settings) (host : Host) (he : s.entry? e = some entry) :
    Draws settings host e entry s (s.render settings host e) := by
  have hreleased : s.releaseOf e = (s.release entry.markers).edit e .takeMarkers := by
    simp only [releaseOf, he]
  have hstrokes : (s.releaseOf e).journal.strokes =
      s.journal.strokes ++ entry.markers.map .release := by
    rw [hreleased]
    rfl
  have hnames : (s.releaseOf e).nextNames host (entry.marked.gutter e).length =
      s.nextNames host (entry.marked.gutter e).length := by
    rw [hreleased]
    rfl
  have hmakes := (makes_mark host e .error entry.marked.errors (s.releaseOf e)).trans
    (makes_mark host e .warning entry.marked.warnings _)
  rw [← MarkedLines.gutter] at hmakes
  simp only [render, he]
  generalize ((s.releaseOf e).mark host e .error entry.marked.errors).mark host e .warning
    entry.marked.warnings = t at hmakes ⊢
  have hentries : ∀ x, t.entry? x = if x = e then
      some { entry with markers := s.nextNames host (entry.marked.gutter e).length }
      else s.entry? x := by
    intro x
    rw [hmakes.entries, hnames, entry?_releaseOf]
    split
    · next hx => rw [hx, he]; rfl
    · rfl
  have hself := (hentries e).trans (if_pos rfl)
  have hcount : t.markerCount e = (entry.marked.gutter e).length := by
    simp only [markerCount, hself, length_nextNames]
  rw [showStatus_showIssues settings host (s := t.note (.render e _)) hself, hcount]
  refine ⟨hentries, ?_, ?_, ?_, ?_, ?_⟩
  · change t.journal.strokes ++ _ = _
    rw [hmakes.strokes, hnames, hstrokes]
    simp only [List.append_assoc]
    rfl
  · rw [hreleased] at hmakes
    exact hmakes.minted
  · change t.counters = _
    rw [hmakes.counters, hreleased]
    simp [release, edit, count, draw, Counters.add, Counters.countReleased]
  · change t.journal.log ++ _ = _
    rw [hmakes.log, hreleased]
    rfl
  · exact ((alike_note rfl t).trans (alike_draw _ _)).work.trans
      (hmakes.work.trans (alike_releaseOf e s).work)

end Session

/-! ## What the host shows afterwards -/

theorem Screen.live?_draw_stroke_of_notMem {m : MarkerId} {names : List MarkerId}
    (h : m ∉ names) (ks : List Marker) (s : Screen) :
    (s.draw (List.zipWith Marker.stroke names ks)).live? m = s.live? m := by
  induction names generalizing ks s with
  | nil => rfl
  | cons name names ih =>
      rw [List.mem_cons, not_or] at h
      obtain ⟨hne, hnot⟩ := h
      cases ks with
      | nil => rfl
      | cons k ks =>
          refine (ih hnot ks (s.apply (k.stroke name))).trans ?_
          rw [Marker.stroke, live?_create, if_neg hne]

/-- New markers are live as they were made. -/
theorem Screen.map_live?_draw_stroke {names : List MarkerId} {ks : List Marker}
    (hl : names.length = ks.length) (hn : names.Nodup) (s : Screen) :
    names.map (s.draw (List.zipWith Marker.stroke names ks)).live? = ks.map some := by
  induction names generalizing ks s with
  | nil =>
      obtain rfl := List.eq_nil_of_length_eq_zero hl.symm
      rfl
  | cons name names ih =>
      cases ks with
      | nil => simp at hl
      | cons k ks =>
          obtain ⟨hnot, hn⟩ := List.nodup_cons.mp hn
          have hhead : ((s.apply (k.stroke name)).draw
              (List.zipWith Marker.stroke names ks)).live? name = some k := by
            rw [live?_draw_stroke_of_notMem hnot, Marker.stroke, live?_create, if_pos rfl]
          exact congrArg₂ List.cons hhead (ih (Nat.succ.inj hl) hn _)

namespace Session

variable {s s' : Session} {settings : Settings} {host : Host} {e : EditorId} {entry : Entry}

theorem nodup_nextNames (hinj : Function.Injective host.marker) (n : Nat) (s : Session) :
    (s.nextNames host n).Nodup :=
  List.Nodup.map hinj List.nodup_range'

theorem mem_nextNames {n : Nat} {m : MarkerId} :
    m ∈ s.nextNames host n ↔ ∃ i, s.minted ≤ i ∧ i < s.minted + n ∧ host.marker i = m := by
  simp [nextNames, List.mem_range'_1, and_assoc]

theorem isMarking_closing (settings : Settings) (host : Host) (e : EditorId) (entry : Entry) :
    ∀ stroke ∈ entry.closing settings host e, stroke.isMarking = false := by
  unfold Entry.closing statusStroke
  split
  · split <;> simp [Stroke.isMarking]
  · simp [Stroke.isMarking]

theorem Draws.live? (h : Draws settings host e entry s s') (m : MarkerId) :
    s'.screen.live? m = ((s.screen.draw (entry.markers.map .release)).draw
      (List.zipWith Marker.stroke (s.nextNames host (entry.marked.gutter e).length)
        (entry.marked.gutter e))).live? m := by
  rw [screen, h.strokes, ← List.append_assoc, Screen.after_append,
    live?_draw_of_not_isMarking (isMarking_closing settings host e entry), Screen.after_append,
    Screen.draw, List.foldl_append]
  rfl

theorem Draws.live?_of_notMem (h : Draws settings host e entry s s') {m : MarkerId}
    (hm : m ∉ s.nextNames host (entry.marked.gutter e).length) :
    s'.screen.live? m = if m ∈ entry.markers then none else s.screen.live? m := by
  rw [h.live?, Screen.live?_draw_stroke_of_notMem hm, Screen.live?_draw_release]

theorem Draws.map_live? (h : Draws settings host e entry s s')
    (hinj : Function.Injective host.marker) :
    (s.nextNames host (entry.marked.gutter e).length).map s'.screen.live? =
      (entry.marked.gutter e).map some := by
  rw [funext h.live?]
  exact Screen.map_live?_draw_stroke (length_nextNames _ _ _) (nodup_nextNames hinj _ _) _

end Session

end Gutter
