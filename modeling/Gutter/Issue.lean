import Gutter.Severity
import Gutter.SortedTable
import Gutter.Text.Blank

/-!
# Issues

A linter reports records with positions that count from one. An issue is a record made ready to
show: positions count from zero, the message is trimmed and names its rule.
-/

namespace Gutter

/-- One finding as a linter reports it, with its place counted from one; code 2 means an error. -/
structure Record where
  line : UInt64
  column : UInt64
  message : String
  rule : Option String
  severity : UInt8
  deriving DecidableEq, Repr

/-- One finding as it is shown, with its place counted from zero; the message names the rule. -/
structure Issue where
  line : UInt64
  column : UInt64
  message : String
  rule : Option String
  severity : Severity
  deriving DecidableEq, Repr

namespace Issue

/-- A position that counts from one, counted from zero; zero stays zero. -/
def zeroBased (n : UInt64) : UInt64 := if n = 0 then 0 else n - 1

def oneBased (n : UInt64) : UInt64 := n + 1

/-- The name of a rule without the blanks around it; a blank name is none. -/
def ruleName? (rule : Option String) : Option String :=
  (rule.map Text.trim).filter (fun r => r ≠ "")

/-- The issue at a position that counts from one. -/
def ofOneBased (line column : UInt64) (message : String) (rule : Option String)
    (severity : Severity) : Issue :=
  let text := Text.trim message
  { line := zeroBased line
    column := zeroBased column
    message := match ruleName? rule with
      | some r => text ++ " (rule: " ++ r ++ ")"
      | none => text
    rule := ruleName? rule
    severity }

def ofRecord (r : Record) : Issue :=
  ofOneBased r.line r.column r.message r.rule (Severity.ofCode r.severity)

/-- The issue of two to show first: the graver one, the earlier one of equals. -/
def graver (best : Option Issue) (issue : Issue) : Option Issue :=
  match best with
  | some b => if b.severity.atLeast issue.severity then some b else some issue
  | none => some issue

/-- The issue to show for a line: the first of the gravest. -/
def primary? (issues : List Issue) : Option Issue := issues.foldl graver none

end Issue

abbrev LineMap := SortedTable UInt64 (List Issue)

namespace LineMap

def push (m : LineMap) (issue : Issue) : LineMap :=
  m.alter issue.line fun earlier => earlier.getD [] ++ [issue]

end LineMap

/-- What one completed check found, line by line and in the order in which it was reported. -/
structure Findings where
  byLine : LineMap
  issues : List Issue
  deriving DecidableEq

namespace Findings

def clean : Findings := ⟨.empty, []⟩

def push (f : Findings) (issue : Issue) : Findings :=
  ⟨f.byLine.push issue, f.issues ++ [issue]⟩

def ofRecords (records : List Record) (level : UInt8) : Findings :=
  ((records.filter (fun r => level ≤ r.severity)).map Issue.ofRecord).foldl push clean

end Findings

/-- The lines to mark, each once, by the severity of the issue shown for it. -/
structure MarkedLines where
  errors : List UInt64
  warnings : List UInt64
  deriving DecidableEq, Repr

namespace MarkedLines

def shows (severity : Severity) (issues : List Issue) : Bool :=
  (Issue.primary? issues).map Issue.severity = some severity

def linesOf (m : LineMap) (severity : Severity) : List UInt64 :=
  (m.pairs.filter (fun x => shows severity x.2)).map Prod.fst

def ofLineMap (m : LineMap) : MarkedLines :=
  ⟨linesOf m .error, linesOf m .warning⟩

def lines (b : MarkedLines) : Severity → List UInt64
  | .error => b.errors
  | .warning => b.warnings

/-- The number of markers that show the lines: one for each severity that has lines. -/
def markerCount (b : MarkedLines) : Nat :=
  (if b.errors.isEmpty then 0 else 1) + (if b.warnings.isEmpty then 0 else 1)

end MarkedLines

end Gutter
