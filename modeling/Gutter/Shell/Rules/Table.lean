import Gutter.Shell.Rules.Value

/-!
# Tables

Values under keys that are numbers or texts. A key is looked for in one of several rows, by its size
or by a hash of its text, and what is found moves to the front of its row; so the order in which keys
are listed depends on how they were used. Rows by texts are made when they are first needed.
-/

namespace Gutter.Shell.Rules

/-- A key: a whole number or a text. The two mean the same if the text is what the number is written
as. -/
inductive Key where
  | number (n : Int)
  | text (s : String)
  deriving DecidableEq, Repr

/-- What is known about a key in a table, and its value. -/
structure Slot where
  text? : Option String
  number? : Option Int
  value : Value
  deriving Inhabited

/-- The rows of a table. They hold the numbers of slots. -/
structure Rows where
  slots : Array Slot
  size : Nat
  byText : Array (List Nat)
  byNumber : Array (List Nat)
  hasTexts : Bool
  deriving Inhabited

/-- Values under keys. -/
inductive Table where
  | empty
  | sequence (values : Array Value)
  | rows (r : Rows)
  deriving Inhabited

namespace Rows

def least : Nat := 64

def density : Nat := 12

def none : Rows :=
  { slots := #[]
    size := 0
    byText := Array.replicate least []
    byNumber := Array.replicate least []
    hasTexts := false }

def hash (s : String) : Nat :=
  (s.toList.foldl (fun (h : UInt32) c => (h ^^^ UInt32.ofNat c.toNat) * 16777619) 2166136261).toNat

def textRow (r : Rows) (s : String) : Nat := hash s % r.byText.size

def numberRow (r : Rows) (n : Int) : Nat := (n % r.byNumber.size).toNat

def slot (r : Rows) (i : Nat) : Slot := r.slots.getD i default

/-- Makes the rows of texts. -/
def withTexts (r : Rows) : Rows :=
  if r.hasTexts then r
  else
    r.byNumber.toList.flatten.foldl (fun r i =>
      let x := r.slot i
      match x.text?, x.number? with
      | .none, some n =>
        let s := toString n
        { r with
          slots := r.slots.setIfInBounds i { x with text? := some s }
          byText := r.byText.modify (r.textRow s) (i :: ·) }
      | _, _ => r) { r with hasTexts := true }

def double (r : Rows) : Rows :=
  let count := 2 * r.byText.size
  let split (rows : Array (List Nat)) (row : Nat → Nat) : Array (List Nat) :=
    (Array.range count).map fun k =>
      (rows.getD (k % rows.size) []).filter fun i => row i = k
  { r with
    byText := split r.byText fun i => ((r.slot i).text?.map fun s => hash s % count).getD count
    byNumber := split r.byNumber fun i =>
      ((r.slot i).number?.map fun n => (n % (count : Int)).toNat).getD count }

def add (x : Slot) (r : Rows) : Nat × Rows :=
  let bigger := { r with slots := r.slots.push x, size := r.size + 1 }
  (r.slots.size,
    if bigger.byText.size * density < bigger.size then bigger.double else bigger)

def frontText (s : String) (i : Nat) (r : Rows) : Rows :=
  { r with byText := r.byText.modify (r.textRow s) fun row => i :: row.erase i }

def frontNumber (n : Int) (i : Nat) (r : Rows) : Rows :=
  { r with byNumber := r.byNumber.modify (r.numberRow n) fun row => i :: row.erase i }

def findText (makes : Bool) (s : String) (r : Rows) : Option Nat × Rows :=
  let r := r.withTexts
  match (r.byText.getD (r.textRow s) []).find? fun i => (r.slot i).text? = some s with
  | some i => (some i, r.frontText s i)
  | .none =>
    if makes then
      let (i, r) := r.add { text? := some s, number? := .none, value := .unset }
      (some i, r.frontText s i)
    else (.none, r)

/-- Finds the slot of a number, or makes it if that is wanted. -/
def findNumber (makes : Bool) (n : Int) (r : Rows) : Option Nat × Rows :=
  match (r.byNumber.getD (r.numberRow n) []).find? fun i => (r.slot i).number? = some n with
  | some i => (some i, r.frontNumber n i)
  | .none =>
    let (found?, r) : Option Nat × Rows :=
      if r.hasTexts then r.findText makes (toString n)
      else if makes then
        let (i, r) := r.add { text? := .none, number? := .none, value := .unset }
        (some i, r)
      else (.none, r)
    match found? with
    | some i =>
      let slots := r.slots.modify i fun x => { x with number? := some n }
      (some i, { r with slots }.frontNumber n i)
    | .none => (.none, r)

def find (makes : Bool) (k : Key) (r : Rows) : Option Nat × Rows :=
  match k with
  | .number n => r.findNumber makes n
  | .text s => r.findText makes s

def erase (k : Key) (r : Rows) : Rows :=
  match r.find false k with
  | (.none, r) => r
  | (some i, r) =>
    let x := r.slot i
    let byText := x.text?.elim r.byText fun s => r.byText.modify (r.textRow s) (·.erase i)
    let byNumber := x.number?.elim r.byNumber fun n =>
      r.byNumber.modify (r.numberRow n) (·.erase i)
    { r with byText, byNumber, size := r.size - 1 }

def ofValues (values : Array Value) : Rows :=
  (values.toList.zipIdx 1).foldl (fun r (value, n) =>
    let (i, r) := r.add { text? := .none, number? := some (n : Int), value }
    r.frontNumber n i) none

end Rows

namespace Table

def size : Table → Nat
  | empty => 0
  | sequence values => values.size
  | rows r => r.size

def toRows : Table → Rows
  | empty => .none
  | sequence values => .ofValues values
  | rows r => r

/-- The value under a key and the table after that. A key that is not there is made. -/
def get (k : Key) (t : Table) : Value × Table :=
  let other : Value × Table :=
    match t.toRows.find true k with
    | (some i, r) => ((r.slot i).value, .rows r)
    | (none, r) => (.unset, .rows r)
  match t, k with
  | sequence values, .number n =>
    if 1 ≤ n && n ≤ values.size then (values.getD (n - 1).toNat .unset, t)
    else if n = values.size + 1 then (.unset, .sequence (values.push .unset))
    else other
  | _, _ => other

/-- Puts a value under a key. -/
def put (k : Key) (value : Value) (t : Table) : Table :=
  let other : Table :=
    match t.toRows.find true k with
    | (some i, r) => .rows { r with slots := r.slots.modify i fun x => { x with value } }
    | (none, r) => .rows r
  match t, k with
  | sequence values, .number n =>
    if 1 ≤ n && n ≤ values.size then .sequence (values.setIfInBounds (n - 1).toNat value)
    else if n = values.size + 1 then .sequence (values.push value)
    else other
  | _, _ => other

def contains (k : Key) (t : Table) : Bool × Table :=
  if t.size = 0 then (false, t)
  else
    let other : Bool × Table :=
      let (found?, r) := t.toRows.find false k
      (found?.isSome, .rows r)
    match t, k with
    | sequence values, .number n => if 1 ≤ n && n ≤ values.size then (true, t) else other
    | _, _ => other

def erase (k : Key) (t : Table) : Table :=
  if t.size = 0 then t
  else
    let other : Table :=
      let r := t.toRows.erase k
      if r.size = 0 then .empty else .rows r
    match t, k with
    | sequence values, .number n => if 1 ≤ n && n ≤ values.size then other else t
    | _, _ => other

def keys (t : Table) : List String × Table :=
  if t.size = 0 then ([], t)
  else
    let r := t.toRows.withTexts
    (r.byText.toList.flatten.filterMap fun i => (r.slot i).text?, .rows r)

end Table

end Gutter.Shell.Rules
