import Gutter.Linter.Command
import Gutter.Severity

/-!
# Settings

What a user can set. Every setting has a default.
-/

namespace Gutter

/-- What a user can set. The level is the least linter code that is kept: 0 keeps everything, 2 only
errors. An edit is checked `debounceMs` milliseconds later, and `evictionSlack` editors out of sight
are remembered before the memory is pruned. -/
structure Settings where
  locale : Locale := .default
  severityLevel : UInt8 := 0
  jsLikeExt : List String := ["js", "jsx", "es", "es6"]
  cssLikeExt : List String := ["css", "less"]
  htmlLikeExt : List String := ["html", "htm"]
  errorColor : String := "#f00"
  warningColor : String := "#ddb700"
  debounceMs : UInt64 := 1000
  evictionSlack : UInt64 := 20
  command : Option Command := none
  deriving DecidableEq

namespace Settings

def default : Settings := {}

instance : Inhabited Settings := ⟨default⟩

def likeExt (s : Settings) : DocKind → List String
  | .js => s.jsLikeExt
  | .css => s.cssLikeExt
  | .html => s.htmlLikeExt

def color (s : Settings) : Severity → String
  | .error => s.errorColor
  | .warning => s.warningColor

end Settings

end Gutter
