import Gutter.Proofs.Session.Found
import Gutter.Proofs.Terminal.Settling
import Mathlib.Data.List.Perm.Basic

/-!
# What a check prints

Each editor gets the focus in turn, which makes the host show its status line and its issues and
nothing of any other editor; its markers are there already. So what is printed for an editor is told
by what is remembered of it.
-/

namespace Gutter

namespace Session

variable {names : Nat → MarkerId} {s : Session} {e : EditorId}

/-! ## The marked lines on the screen -/

/-- The markers on the screen that belong to an editor are those of its gutter. -/
theorem Shown.perm_gutter (h : Shown names s) (e : EditorId) :
    ((s.screen.markers.pairs.filter fun x => x.2.editor = e).map Prod.snd).Perm (s.gutter e) := by
  have hkeys : ((s.screen.markers.pairs.filter fun x => x.2.editor = e).map Prod.fst).Perm
      (s.markersOf? e) := by
    refine (List.perm_ext_iff_of_nodup (s.screen.markers.distinct.sublist
      (List.filter_sublist.map _)) (h.nodup e)).mpr fun m => ?_
    rw [h.mem_iff]
    simp [Screen.live?, Table.get?_eq_some_iff]
  have hlive : ((s.screen.markers.pairs.filter fun x => x.2.editor = e).map Prod.fst).map
      s.screen.live? =
      ((s.screen.markers.pairs.filter fun x => x.2.editor = e).map Prod.snd).map some := by
    rw [List.map_map, List.map_map]
    refine List.map_congr_left fun x hx => ?_
    exact Table.get?_eq_some_iff.mpr (List.mem_of_mem_filter hx)
  have hperm := hkeys.map s.screen.live?
  rw [hlive, h.painted e] at hperm
  simpa using hperm.filterMap id

theorem filter_gutter (e : EditorId) (b : MarkedLines) (severity : Severity) :
    (b.gutter e).filter (fun k => k.severity = severity) =
      if b.lines severity = [] then [] else [⟨e, severity, b.lines severity⟩] := by
  cases severity <;> by_cases he : b.errors = [] <;> by_cases hw : b.warnings = [] <;>
    simp [MarkedLines.gutter, MarkedLines.lines, he, hw]

theorem flatMap_ite {α β : Type} (p : α → Bool) (f : α → List β) (l : List α) :
    (l.flatMap fun a => if p a then f a else []) = (l.filter p).flatMap f := by
  induction l with
  | nil => rfl
  | cons a l ih => cases h : p a <;> simp [h, ih]

theorem Shown.perm_filter_gutter (h : Shown names s) (e : EditorId) (severity : Severity) :
    ∃ markers : List Marker, markers.Perm ((s.gutter e).filter fun k => k.severity = severity) ∧
      Printout.markedLines s.screen e severity = markers.flatMap Marker.lines := by
  refine ⟨_, (h.perm_gutter e).filter fun k => k.severity = severity, ?_⟩
  rw [List.filter_map, List.filter_filter, List.flatMap_map, ← flatMap_ite]
  simp only [Function.comp_apply, Bool.and_eq_true, decide_eq_true_eq, and_comm,
    Printout.markedLines]

/-- The marked lines of an editor are those of its last completed check. -/
theorem Shown.markedLines (h : Shown names s) {entry : Entry} (he : s.entry? e = some entry)
    (severity : Severity) :
    Printout.markedLines s.screen e severity = entry.marked.lines severity := by
  obtain ⟨markers, hperm, hlines⟩ := h.perm_filter_gutter e severity
  rw [gutter_of_entry he, filter_gutter] at hperm
  rw [hlines]
  split at hperm
  · next hnil => rw [List.perm_nil.mp hperm, hnil, List.flatMap_nil]
  · rw [List.perm_singleton.mp hperm, List.flatMap_singleton]

theorem Shown.markedLines_of_none (h : Shown names s) (he : s.entry? e = none)
    (severity : Severity) : Printout.markedLines s.screen e severity = [] := by
  obtain ⟨markers, hperm, hlines⟩ := h.perm_filter_gutter e severity
  rw [gutter, he] at hperm
  rw [hlines, List.perm_nil.mp hperm, List.flatMap_nil]

end Session

/-! ## The rows of an editor -/

namespace Printout

def linesRow (severity : Severity) : List UInt64 → List String
  | [] => []
  | lines => ["  " ++ severity.name ++ " markers: " ++ ", ".intercalate (lines.map position)]

/-- The row that tells of the issues of a line, if there are any. -/
def primaryRow (settings : Settings) (line : UInt64) (issues : List Issue) : List String :=
  match Issue.primary? issues with
  | some i =>
    ["  status (line " ++ position line ++ ", " ++ settings.color i.severity ++ "): " ++ i.message]
  | none => []

def issuesRows : List Issue → List String
  | [] => ["  no issues"]
  | issues => issues.map issueRow

/-- What is printed for a file, told by its name, the line of the cursor in it and the answer of the
linter, if the linter was called. -/
def block (settings : Settings) (file : Path) (line : UInt64) :
    Option (Except Failure (List Record)) → String
  | none => lines [file.display]
  | some (.error _) => lines [file.display, "  no issues", "  check failed"]
  | some (.ok records) =>
    let findings := Findings.ofRecords records settings.severityLevel
    let marked := MarkedLines.ofLineMap findings.byLine
    lines ([file.display] ++ linesRow .error marked.errors ++ linesRow .warning marked.warnings ++
      primaryRow settings line ((findings.byLine.get? line).getD []) ++ issuesRows findings.issues)

variable {desk : Desk} {screen : Screen} {e : EditorId} {doc : Document}

theorem lines_append (above below : List String) :
    lines (above ++ below) = lines above ++ lines below := by
  simp [lines]

theorem markerRow_eq (screen : Screen) (e : EditorId) (severity : Severity) :
    markerRow screen e severity = linesRow severity (markedLines screen e severity) := by
  rw [markerRow]
  cases markedLines screen e severity <;> rfl

theorem statusRow_eq {settings : Settings} {issues : List Issue} (ha : desk.active = some e)
    (hs : screen.statusLine = Session.statusLine? settings issues) (doc : Document) :
    statusRow desk screen e doc = primaryRow settings (doc.cursor.getD 0) issues := by
  rw [statusRow, primaryRow, hs, Session.statusLine?]
  cases Issue.primary? issues with
  | none => rfl
  | some primary => exact if_pos ha

theorem rows_eq {settings : Settings} {issues : List Issue}
    (hopen : desk.documents.get? e = some doc) (ha : desk.active = some e)
    (hs : screen.statusLine = Session.statusLine? settings issues) :
    rows desk screen e = [doc.file.display] ++ linesRow .error (markedLines screen e .error) ++
      linesRow .warning (markedLines screen e .warning) ++
      primaryRow settings (doc.cursor.getD 0) issues ++ issueRows screen doc := by
  simp only [rows, hopen, markerRow_eq, statusRow_eq ha hs]

theorem issueRows_of_published {issues : List Issue}
    (hp : screen.published? doc.file = some issues) : issueRows screen doc = issuesRows issues := by
  rw [issueRows, hp]
  cases issues <;> rfl

end Printout

end Gutter
