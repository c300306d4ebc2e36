import Gutter.Settings
import Gutter.Table

/-!
# Extensions

Which kind of document a file holds, told by the last extension of its name. An extension that is
listed for several kinds means the last of them.
-/

namespace Gutter

/-- The kind that each known extension means. -/
structure Extensions where
  kinds : Table String DocKind

namespace Extensions

def empty : Extensions := ⟨.empty⟩

def bare (ext : String) : String :=
  String.ofList (ext.toList.dropWhile (fun c => c = '.'))

/-- The extensions with one more, given with or without dots in front; nothing but dots is no
extension. -/
def register (x : Extensions) (ext : String) (kind : DocKind) : Extensions :=
  if bare ext = "" then x else ⟨x.kinds.insert (bare ext) kind⟩

def registerAll (x : Extensions) (kind : DocKind) (exts : List String) : Extensions :=
  exts.foldl (fun x ext => x.register ext kind) x

def ofSettings (s : Settings) : Extensions :=
  DocKind.all.foldl (fun x kind => x.registerAll kind (s.likeExt kind)) empty

def kind? (x : Extensions) (ext : String) : Option DocKind := x.kinds.get? ext

def kindOf? (x : Extensions) (file : Path) : Option DocKind :=
  file.extension?.bind x.kind?

def supports (x : Extensions) (file : Path) : Bool := (x.kindOf? file).isSome

def size (x : Extensions) : Nat := x.kinds.size

end Extensions

end Gutter
