import Gutter.Log.Directive

/-!
# Which events are written

A filter is a list of directives. Of the directives that hold for an event the most specific one
counts.
-/

namespace Gutter.Log

abbrev Filter := List Directive

namespace Filter

/-- The filter that a text spells: directives with commas between them. -/
def ofText? (text : String) : Option Filter := do
  let directives ← ((text.splitOn ",").filter (· ≠ "")).mapM Directive.ofText?
  return directives.filterMap id

def directive (target : Option String) (level : Level) : Directive := ⟨target, none, some level⟩

/-- What is written when nothing is asked for: warnings. -/
def quiet : Filter := [directive none .warn]

def verbose : Filter :=
  [directive (some "gutterlint_editor") .debug, directive (some "gutterlint_linter") .debug,
    directive (some "gutterlint") .debug, directive none .info]

/-- Whether a directive is at least as specific as another one that holds for the same event: it
has the longer target or, with equal ones, a field where the other has none or an earlier one. -/
def isAsSpecific (d other : Directive) : Bool :=
  let size (d : Directive) : Nat := d.target.elim 0 (·.length + 1)
  if size d ≠ size other then size other < size d
  else
    match other.field, d.field with
    | none, _ => true
    | some _, none => false
    | some f, some g => f ≤ g

/-- The better of two directives that hold: the more specific one, the later of equals. -/
def better (best : Option Directive) (d : Directive) : Option Directive :=
  match best with
  | some b => if isAsSpecific d b then some d else some b
  | none => some d

def directive? (f : Filter) (e : Event) : Option Directive :=
  (f.filter (fun d => d.holdsFor e)).foldl better none

def admits (f : Filter) (e : Event) : Bool :=
  match (f.directive? e).bind Directive.level with
  | some level => e.level.detail ≤ level.detail
  | none => false

/-- The filter in force: the one that is spelled out if it can be read, or else the one for the
wanted detail. -/
def choose (verboseWanted : Bool) (spelled : Option String) : Filter :=
  match spelled.bind ofText? with
  | some f => f
  | none => if verboseWanted then verbose else quiet

end Filter

end Gutter.Log
