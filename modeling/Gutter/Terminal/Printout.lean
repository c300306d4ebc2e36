import Gutter.Session.Desk
import Gutter.Session.Screen

/-!
# What a screen shows, as text

The lines with markers, the status line and the published issues of one editor. Positions are
printed counted from one.
-/

namespace Gutter.Printout

def position (n : UInt64) : String := toString (Issue.oneBased n)

def markedLines (screen : Screen) (editor : EditorId) (severity : Severity) : List UInt64 :=
  screen.markers.pairs.flatMap fun x =>
    if x.2.editor = editor && x.2.severity = severity then x.2.lines else []

def markerRow (screen : Screen) (editor : EditorId) (severity : Severity) : List String :=
  match markedLines screen editor severity with
  | [] => []
  | lines => ["  " ++ severity.name ++ " markers: " ++ ", ".intercalate (lines.map position)]

/-- The row of the status line, if the editor is active and there is one. -/
def statusRow (desk : Desk) (screen : Screen) (editor : EditorId) (doc : Document) :
    List String :=
  match screen.statusLine with
  | some status =>
    if desk.active = some editor then
      ["  status (line " ++ position (doc.cursor.getD 0) ++ ", " ++ status.color ++ "): " ++
        status.text]
    else []
  | none => []

def issueRow (i : Issue) : String :=
  "  " ++ position i.line ++ ":" ++ position i.column ++ " " ++ i.severity.name ++ " " ++ i.message

/-- The rows of the issues published for a document; if none are, not even an empty list, there is
no row. -/
def issueRows (screen : Screen) (doc : Document) : List String :=
  match screen.published? doc.file with
  | some [] => ["  no issues"]
  | some issues => issues.map issueRow
  | none => []

/-- All rows of an editor. -/
def rows (desk : Desk) (screen : Screen) (editor : EditorId) : List String :=
  match desk.documents.get? editor with
  | none => []
  | some doc =>
    [doc.file.display] ++ markerRow screen editor .error ++ markerRow screen editor .warning ++
      statusRow desk screen editor doc ++ issueRows screen doc

def lines (rows : List String) : String := String.join (rows.map (· ++ "\n"))

def text (desk : Desk) (screen : Screen) (editor : EditorId) : String :=
  lines (rows desk screen editor)

end Gutter.Printout
