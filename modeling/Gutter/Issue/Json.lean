import Gutter.Issue
import Gutter.Json.Printer
import Gutter.Json.Shape

/-!
# Issues as JSON
-/

namespace Gutter

open Json

def Severity.toJson (s : Severity) : Value := .string s.name

def Severity.reader : Reader Severity :=
  .choice [(Severity.warning.name, .warning), (Severity.error.name, .error)]

namespace Issue

def toJson (i : Issue) : Value :=
  .object [("line", .natural i.line.toNat), ("column", .natural i.column.toNat),
    ("message", .string i.message), ("rule", .optional (i.rule.map .string)),
    ("severity", i.severity.toJson)]

/-- How an issue is described. The rule may be absent from an object; everything else must be
there. -/
def shape : Shape Issue where
  title := "struct Issue"
  initial := ⟨0, 0, "", none, .warning⟩
  fields := [
    .of "line" .refused (.word64 "usize") fun x i => { i with line := x },
    .of "column" .refused (.word64 "usize") fun x i => { i with column := x },
    .of "message" .refused .text fun x i => { i with message := x },
    .of "rule" .omitted (.optional .text) fun x i => { i with rule := x },
    .of "severity" .refused Severity.reader fun x i => { i with severity := x }]

def ofJson (bytes : List UInt8) : Except Error Issue := read shape.reader bytes

end Issue

end Gutter
