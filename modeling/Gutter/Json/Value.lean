import Gutter.Json.Draft

/-!
# JSON values

The value that a whole text stands for, whatever it describes. Keys keep their order and may repeat.
-/

namespace Gutter.Json

/-- A JSON value. -/
inductive Value where
  | null
  | boolean (b : Bool)
  | number (n : Number)
  | string (s : String)
  | list (items : List Value)
  | object (members : List (String × Value))

def depthLimit : Nat := 128

def enter (depth : Nat) : Except Fault Nat :=
  if depth ≤ 1 then .error .tooDeep else .ok (depth - 1)

namespace Draft

def key : Draft → Except Fault String
  | .string value _ => value
  | _ => .error .keyNotString

mutual

/-- The value that a draft shows, or the first fault in it. -/
def toValue (depth : Nat) : Draft → Except Fault Value
  | .gap fault => .error fault
  | .word value => value.map fun
    | .null => .null
    | .boolean b => .boolean b
  | .number value _ => value.map .number
  | .string value _ => value.map .string
  | .list items close => do
    let depth ← enter depth
    let items ← toValues depth items
    check close.listFault?
    return .list items
  | .object members close => do
    let depth ← enter depth
    let members ← toMembers depth members
    check close.objectFault?
    return .object members

/-- The values that drafts show. -/
def toValues (depth : Nat) : List Draft → Except Fault (List Value)
  | [] => .ok []
  | d :: ds => do
    let v ← toValue depth d
    let vs ← toValues depth ds
    return v :: vs

/-- The members that drafts show. -/
def toMembers (depth : Nat) : List (Draft × Draft) → Except Fault (List (String × Value))
  | [] => .ok []
  | (key, value) :: ms => do
    let k ← key.key
    let v ← toValue depth value
    let ms ← toMembers depth ms
    return (k, v) :: ms

end

end Draft

abbrev Reader (α : Type) := (depth : Nat) → Draft → Except Error α

/-- What a whole text describes. More text after the value is a fault, which is looked for last. -/
def read {α : Type} (reader : Reader α) (bytes : List UInt8) : Except Error α := do
  let (draft, rest) := Draft.ofBytes bytes
  let a ← reader depthLimit draft
  match skipGap (rest.getD []) with
  | [] => .ok a
  | _ :: _ => .error (.fault .trailingText)

def lift {α : Type} (x : Except Fault α) : Except Error α := x.mapError .fault

def Reader.any : Reader Value := fun depth d => lift (d.toValue depth)

def Value.ofBytes (bytes : List UInt8) : Except Error Value := read .any bytes

end Gutter.Json
