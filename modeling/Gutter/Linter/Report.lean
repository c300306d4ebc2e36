import Gutter.Issue
import Gutter.Json.Value

/-!
# Linter reports

A linter answers with JSON: a list of records, or a list of files that each hold a list of records,
of which only the first counts, for the linter is given one document at a time. A record may also be
a list of its fields in order. Output that is blank reports nothing.
-/

namespace Gutter

open Json

namespace Report

/-- The members of an object, or of a list that holds the given fields in order; a list may stop
early but not go on. -/
def members? (fields : List String) : Value → Option (List (String × Value))
  | .object ms => some ms
  | .list vs => if vs.length ≤ fields.length then some (fields.zip vs) else none
  | _ => none

/-- What a field reads as: its initial value if it is absent, and nothing if it is there twice. -/
def field? {α : Type} (name : String) (initial : Option α) (reader : Value → Option α)
    (ms : List (String × Value)) : Option α :=
  match ms.filter (fun m => m.1 = name) with
  | [] => initial
  | [m] => reader m.2
  | _ :: _ :: _ => none

def natural? (bound : Nat) : Value → Option Nat
  | .number (.integer n) => if 0 ≤ n && n < bound then some n.toNat else none
  | _ => none

def word64? (v : Value) : Option UInt64 := (natural? UInt64.size v).map UInt64.ofNat

def byte? (v : Value) : Option UInt8 := (natural? UInt8.size v).map UInt8.ofNat

def text? : Value → Option String
  | .string s => some s
  | _ => none

def textOrNull? : Value → Option (Option String)
  | .null => some none
  | .string s => some (some s)
  | _ => none

/-- The record that a value describes. -/
def record? (v : Value) : Option Record := do
  let ms ← members? ["line", "column", "message", "rule", "severity"] v
  let line ← field? "line" none word64? ms
  let column ← field? "column" (some 0) word64? ms
  let message ← field? "message" none text? ms
  let rule ← field? "rule" (some none) textOrNull? ms
  let severity ← field? "severity" (some 0) byte? ms
  return { line, column, message, rule, severity }

def records? : Value → Option (List Record)
  | .list vs => vs.mapM record?
  | _ => none

/-- The records of a value that describes a file; a file without records has none. -/
def file? (v : Value) : Option (List Record) := do
  let ms ← members? ["errors"] v
  field? "errors" (some []) records? ms

def firstFile? : Value → Option (List Record)
  | .list vs => (vs.mapM file?).map fun files => files.head?.getD []
  | _ => none

/-- The records that a value reports. Files are tried last, for every object describes one. -/
def ofValue? (v : Value) : Option (List Record) :=
  match records? v with
  | some records => some records
  | none => firstFile? v

def reader : Reader (List Record) := fun depth d => do
  let v ← Reader.any depth d
  match ofValue? v with
  | some records => .ok records
  | none => .error (.mismatch .shape)

def isBlankByte (b : UInt8) : Bool :=
  b = 0x20 || b = 0x09 || b = 0x0A || b = 0x0C || b = 0x0D

def isBlank (bytes : List UInt8) : Bool := bytes.all isBlankByte

def ofBytes (bytes : List UInt8) : Except Error (List Record) :=
  if isBlank bytes then .ok [] else read reader bytes

end Report

namespace Record

def toJson (r : Record) : Value :=
  .object [("line", .number (.integer r.line.toNat)), ("column", .number (.integer r.column.toNat)),
    ("message", .string r.message), ("rule", (r.rule.map Value.string).getD .null),
    ("severity", .number (.integer r.severity.toNat))]

end Record

end Gutter
