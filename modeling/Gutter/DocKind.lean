/-!
# Kinds of documents

The linter handles scripts, style sheets and markup. Each kind has a short name.
-/

namespace Gutter

/-- What a document holds. -/
inductive DocKind where
  | js
  | css
  | html
  deriving DecidableEq, Repr

namespace DocKind

def all : List DocKind := [.js, .css, .html]

def name : DocKind → String
  | .js => "js"
  | .css => "css"
  | .html => "html"

/-- A name that no kind has. -/
structure Unknown where
  name : String
  deriving DecidableEq, Repr

def Unknown.message (e : Unknown) : String := "unknown document type: " ++ e.name

/-- The kind with a given short name. -/
def ofName (s : String) : Except Unknown DocKind :=
  match s with
  | "js" => .ok .js
  | "css" => .ok .css
  | "html" => .ok .html
  | s => .error ⟨s⟩

theorem ofName_name (k : DocKind) : ofName k.name = .ok k := by
  cases k <;> rfl

end DocKind

end Gutter
