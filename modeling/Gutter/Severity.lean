/-!
# Severities

An issue is a warning or an error. Linters report a numeric code, of which 2 means an error.
-/

namespace Gutter

/-- How grave an issue is. -/
inductive Severity where
  | warning
  | error
  deriving DecidableEq, Repr

namespace Severity

def ofCode (code : UInt8) : Severity :=
  if code = 2 then .error else .warning

def name : Severity → String
  | .warning => "warning"
  | .error => "error"

def ofName? : String → Option Severity
  | "warning" => some .warning
  | "error" => some .error
  | _ => none

def atLeast : Severity → Severity → Bool
  | .warning, .error => false
  | _, _ => true

def compare (a b : Severity) : Ordering :=
  match a.atLeast b, b.atLeast a with
  | true, true => .eq
  | true, false => .gt
  | false, _ => .lt

end Severity

end Gutter
