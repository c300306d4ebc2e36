import Gutter.Settings.Json
import Gutter.Toml.Document

/-!
# Settings as TOML

A settings file is a TOML document. It describes settings as a JSON text with the same values does,
with three differences: a date is a table with one member, a number too large for every integer type
is refused wherever it stands, and a list may hold more than the fields of a record.
-/

namespace Gutter

namespace Toml.Value

open Json

def textDraft (s : String) : Draft := .string (.ok s) (.ok ())

def momentKey : String := "$__toml_private_datetime"

mutual

/-- A value as the draft of a JSON text. A number that is no integer can only be passed over. -/
def toDraft : Value → Draft
  | .string s => textDraft s
  | .integer n => .number (.ok (.integer n)) (.ok ())
  | .float => .number (.error .numberOutOfRange) (.ok ())
  | .boolean b => .word (.ok (.boolean b))
  | .moment text => .object [(textDraft momentKey, textDraft text)] .closed
  | .list _ items => .list (toDrafts items) .loose
  | .table _ members => .object (toMembers members) .closed

def toDrafts : List Value → List Draft
  | [] => []
  | v :: vs => toDraft v :: toDrafts vs

def toMembers : List (String × Value) → List (Draft × Draft)
  | [] => []
  | (key, v) :: ms => (textDraft key, toDraft v) :: toMembers ms

end

end Toml.Value

namespace Settings

def ofToml? (text : String) : Option Settings := do
  let root ← Toml.ofText? text
  (shape.reader Json.depthLimit (.object (Toml.Value.toMembers root) .closed)).toOption

end Settings

end Gutter
