import Gutter.Session.Host
import Gutter.Table

/-!
# A desk with documents

A host that keeps its documents in memory.
-/

namespace Gutter

/-- An open document, as far as the host can tell of its text and its cursor. -/
structure Document where
  file : Path
  text : Option String
  cursor : Option UInt64
  deriving DecidableEq, Repr

/-- The open documents, and which of them are shown. -/
structure Desk where
  documents : Table EditorId Document := .empty
  visible : List EditorId := []
  active : Option EditorId := none

namespace Desk

def empty : Desk := {}

/-- Opens a document, on screen or not. It is active if nothing else is. -/
def openDocument (editor : EditorId) (doc : Document) (onScreen : Bool) (d : Desk) : Desk where
  documents := d.documents.insert editor doc
  visible := if onScreen then d.visible ++ [editor] else d.visible
  active := some (d.active.getD editor)

def closeDocument (editor : EditorId) (d : Desk) : Desk where
  documents := d.documents.erase editor
  visible := d.visible.filter (· ≠ editor)
  active := if d.active = some editor then none else d.active

def edit (editor : EditorId) (f : Document → Document) (d : Desk) : Desk :=
  { d with documents := d.documents.modify editor f }

def focus (editor : Option EditorId) (d : Desk) : Desk := { d with active := editor }

/-- The answers of the desk, as a host that names its markers 1, 2, 3 and so on. -/
def host (d : Desk) : Host where
  visible := d.visible
  active := d.active
  file? := fun e => (d.documents.get? e).map Document.file
  text? := fun e => (d.documents.get? e).bind Document.text
  cursor? := fun e => (d.documents.get? e).bind Document.cursor
  marker := fun n => ⟨n + 1⟩

end Desk

end Gutter
