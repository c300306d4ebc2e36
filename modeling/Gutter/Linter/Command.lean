import Gutter.DocKind
import Gutter.Locale
import Gutter.Path
import Gutter.SortedTable
import Gutter.Text.Substitute

/-!
# Linter commands

A linter is asked to check a text of some kind in some language. One that is a program of its own
is described by a command, whose arguments may name the kind and the language.
-/

namespace Gutter

/-- What a linter is asked to check. -/
structure Request where
  text : String
  kind : DocKind
  locale : Locale
  deriving DecidableEq, Repr

/-- How to start a linter program: in a directory, if not in the current one, and with variables on
top of those that are set already. -/
structure Command where
  program : String
  args : List String
  env : SortedTable String String
  cwd : Option Path
  deriving DecidableEq

namespace Command

def ofProgram (program : String) : Command := ⟨program, [], .empty, none⟩

/-- An argument with its placeholders filled in: first `{type}`, then `{locale}`. -/
def expandArg (kind : DocKind) (locale : Locale) (arg : String) : String :=
  Text.substitute "{locale}" locale.code (Text.substitute "{type}" kind.name arg)

def expandArgs (c : Command) (kind : DocKind) (locale : Locale) : List String :=
  c.args.map (expandArg kind locale)

end Command

end Gutter
