/-!
# TOML values

What a TOML text can say, and how a document grows line by line. A table remembers how it came
about, for that decides who may still add to it.
-/

namespace Gutter.Toml

/-- How a table came about: with a header, on the way to one or to a value with a dotted key, or
between braces. -/
inductive Origin where
  | header
  | implied
  | dotted
  | closed
  deriving DecidableEq, Repr

/-- A value. A date or a time is in its canonical form, and a list of tables with headers is open
for more of them. -/
inductive Value where
  | string (s : String)
  | integer (n : Int)
  | float
  | boolean (b : Bool)
  | moment (text : String)
  | list (isOpen : Bool) (items : List Value)
  | table (origin : Origin) (members : List (String × Value))

abbrev Members := List (String × Value)

namespace Members

def get? (key : String) : Members → Option Value
  | [] => none
  | (k, v) :: ms => if k = key then some v else get? key ms

def put (key : String) (value : Value) : Members → Members
  | [] => [(key, value)]
  | (k, v) :: ms => if k = key then (k, value) :: ms else (k, v) :: put key value ms

end Members

/-! ## Growth -/

/-- Whether a table may be passed on the way to a value: by the path of a header, or by a dotted
key. -/
def Origin.admits : (byKey : Bool) → Origin → Bool
  | _, .closed => false
  | true, origin => origin = .implied || origin = .dotted
  | false, _ => true

/-- A table that is to change, and what becomes of it; `none` refuses the change. -/
abbrev Change := Origin → Members → Option (Origin × Members)

/-- Changes the table at a path, which is made on the way if it is absent. A list of tables stands
for its last table. -/
def changeAt (byKey : Bool) (change : Change) : (path : List String) → Change
  | [], origin, ms => change origin ms
  | key :: path, origin, ms =>
    let onward := changeAt byKey change path
    let retable (x : Origin × Members) : Value := .table x.1 x.2
    let replace (v : Value) : Origin × Members := (origin, Members.put key v ms)
    match Members.get? key ms with
    | none => do
      let made ← onward (if byKey then .dotted else .implied) []
      return replace (retable made)
    | some (.table inner members) =>
      if inner.admits byKey then do return replace (retable (← onward inner members)) else none
    | some (.list true items) =>
      match items.reverse with
      | .table inner members :: before => do
        return replace (.list true (before.reverse ++ [retable (← onward inner members)]))
      | _ => none
    | some _ => none

/-- Gives a key a value. The key must be new, and a dotted key must not lead into a table with a
header of its own. A table that a dotted key leads into gets no header any more. -/
def define (path : List String) (key : String) (value : Value) : Change :=
  changeAt true (fun origin ms =>
    if !path.isEmpty && !origin.admits true then none
    else if (Members.get? key ms).isSome then none
    else some (if path.isEmpty then origin else .dotted, Members.put key value ms)) path

/-- Opens the table that a header names. It must be new or implied by other headers. -/
def openTable (path : List String) (key : String) : Change :=
  changeAt false (fun origin ms =>
    match Members.get? key ms with
    | none => some (origin, Members.put key (.table .header []) ms)
    | some (.table .implied members) =>
      some (origin, Members.put key (.table .header members) ms)
    | some _ => none) path

/-- Adds a table to the list that a header names. -/
def appendTable (path : List String) (key : String) : Change :=
  changeAt false (fun origin ms =>
    match Members.get? key ms with
    | none => some (origin, Members.put key (.list true [.table .header []]) ms)
    | some (.list true items) =>
      some (origin, Members.put key (.list true (items ++ [.table .header []])) ms)
    | some _ => none) path

end Gutter.Toml
