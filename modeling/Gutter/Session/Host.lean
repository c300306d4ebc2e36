import Gutter.Path
import Gutter.Session.Id

/-!
# What the host answers

The host owns the editors and their documents. A session asks it which editors are on screen and
what they show; while the session handles one thing the answers do not change.
-/

namespace Gutter

/-- The answers of a host. An editor may be on screen twice, and it shows no document once it is
gone. New markers are named by the number of markers made before. -/
structure Host where
  visible : List EditorId
  active : Option EditorId
  file? : EditorId → Option Path
  text? : EditorId → Option String
  cursor? : EditorId → Option UInt64
  marker : Nat → MarkerId

end Gutter
