import Gutter.Json.Value

/-!
# Reading what a text describes

Readers for texts, numbers, lists and records. A record is read from an object, by the names of its
fields, or from a list, by their order. In an object a member that is no field is skimmed. The first
thing that is wrong is reported.
-/

namespace Gutter.Json

namespace Reader

/-- The complaint that something else than `wanted` stands in a draft, or the fault in it. -/
def mismatch {α : Type} (wanted : String) (d : Draft) : Except Error α := do
  let found ← match d with
    | .gap fault => .error (.fault fault)
    | .word value => lift (value.map fun
      | .null => Kind.null
      | .boolean b => Kind.boolean b)
    | .number value _ => lift (value.map Kind.number)
    | .string value _ => lift (value.map Kind.string)
    | .list _ _ => .ok Kind.list
    | .object _ _ => .ok Kind.object
  .error (.mismatch (.kind found wanted))

def textAs (wanted : String) : Reader String := fun _ d =>
  match d with
  | .string value _ => lift value
  | d => mismatch wanted d

def text : Reader String := textAs "a string"

/-- The reader of an integer from 0 to `bound`, exclusive, that is called `wanted`. -/
def natural (wanted : String) (bound : Nat) : Reader Nat := fun _ d => do
  match d with
  | .number value _ =>
    match ← lift value with
    | .integer n =>
      if 0 ≤ n && n < bound then .ok n.toNat else .error (.mismatch (.range n wanted))
    | .float x => .error (.mismatch (.kind (.number (.float x)) wanted))
  | d => mismatch wanted d

def byte : Reader UInt8 := fun depth d =>
  (natural "u8" UInt8.size depth d).map UInt8.ofNat

def word64 (wanted : String) : Reader UInt64 := fun depth d =>
  (natural wanted UInt64.size depth d).map UInt64.ofNat

/-- The results of a reader on each draft of a list. -/
def each {α : Type} (reader : Draft → Except Error α) : List Draft → Except Error (List α)
  | [] => .ok []
  | d :: ds => do
    let a ← reader d
    let as ← each reader ds
    return a :: as

/-- The reader of a list. -/
def list {α : Type} (reader : Reader α) : Reader (List α) := fun depth d =>
  match d with
  | .list items close => do
    let depth ← lift (enter depth)
    let as ← each (reader depth) items
    lift (check close.listFault?)
    return as
  | d => mismatch "a sequence" d

/-- The results of a reader on each member of an object, with their keys. -/
def eachMember {α : Type} (reader : Draft → Except Error α) :
    List (Draft × Draft) → Except Error (List (String × α))
  | [] => .ok []
  | (key, value) :: ms => do
    let k ← lift key.key
    let a ← reader value
    let as ← eachMember reader ms
    return (k, a) :: as

/-- The reader of an object with any keys. -/
def members {α : Type} (reader : Reader α) : Reader (List (String × α)) := fun depth d =>
  match d with
  | .object ms close => do
    let depth ← lift (enter depth)
    let as ← eachMember (reader depth) ms
    lift (check close.objectFault?)
    return as
  | d => mismatch "a map" d

def optional {α : Type} (reader : Reader α) : Reader (Option α) := fun depth d =>
  match d with
  | .word (.ok .null) => .ok none
  | d => (reader depth d).map some

def choose {α : Type} (choices : List (String × α)) (found : String) : Except Error α :=
  match choices.find? (fun x => x.1 = found) with
  | some x => .ok x.2
  | none => .error (.mismatch (.choice found (choices.map Prod.fst)))

/-- The reader of one of several words: as a string, or as the key of an object with one member,
whose value is `null`. -/
def choice {α : Type} (choices : List (String × α)) : Reader α := fun depth d =>
  match d with
  | .string value _ => do choose choices (← lift value)
  | .object [] close => do
    let _ ← lift (enter depth)
    .error (.fault (if close = .cut then .endInObject else .noValue))
  | .object ((key, value) :: more) close => do
    let _ ← lift (enter depth)
    let a ← choose choices (← lift key.key)
    match value with
    | .word (.ok .null) => pure ()
    | value => mismatch "unit" value
    match more, close with
    | [], .closed => .ok a
    | [], .cut => .error (.fault .endInObject)
    | _, _ => .error (.fault .noValue)
  | .gap fault => .error (.fault fault)
  | _ => .error (.fault .noValue)

end Reader

/-! ## Records -/

/-- What it means that a field is absent: the record is refused, or the field keeps its initial
value. One that is omitted keeps it only if the record is an object. -/
inductive Absence where
  | refused
  | omitted
  | default
  deriving DecidableEq, Repr

/-- A field of a record of type `σ`, and what reading a value of it does to the record. -/
structure Field (σ : Type) where
  name : String
  alias? : Option String
  absence : Absence
  set : Reader (σ → σ)

namespace Field

def of {σ α : Type} (name : String) (absence : Absence) (reader : Reader α)
    (store : α → σ → σ) : Field σ :=
  ⟨name, none, absence, fun depth d => (reader depth d).map store⟩

def answers {σ : Type} (f : Field σ) (name : String) : Bool :=
  name = f.name || f.alias? = some name

end Field

/-- How a record of type `σ` is described. A list holds the fields in this order. -/
structure Shape (σ : Type) where
  title : String
  initial : σ
  fields : List (Field σ)

namespace Shape

variable {σ : Type}

/-- The record after the members of an object, and the names of the fields that were among them. -/
def readMembers (s : Shape σ) (depth : Nat) :
    List (Draft × Draft) → (seen : List String) → σ → Except Error (List String × σ)
  | [], seen, r => .ok (seen, r)
  | (key, value) :: ms, seen, r => do
    let name ← lift key.key
    match s.fields.find? (fun f => f.answers name) with
    | none =>
      lift value.skim
      readMembers s depth ms seen r
    | some f =>
      if f.name ∈ seen then .error (.mismatch (.duplicate f.name))
      else
        let update ← f.set depth value
        readMembers s depth ms (f.name :: seen) (update r)

def missing? (s : Shape σ) (seen : List String) : Option String :=
  (s.fields.find? (fun f => f.absence = .refused && f.name ∉ seen)).map Field.name

/-- The fault that a list of fields ends with after its last field. -/
def rowFault? : List Draft → Close → Option Fault
  | _, .loose => none
  | [], .closed => none
  | [], .cut => some .endInList
  | [], .trailingComma => some .trailingComma
  | _, _ => some .trailingText

/-- The record after the items of a list, of which `index` are already read. -/
def readRow (s : Shape σ) (depth : Nat) (close : Close) :
    List (Field σ) → (index : Nat) → List Draft → σ → Except Error σ
  | [], _, items, r => do
    lift (check (rowFault? items close))
    return r
  | f :: fs, index, d :: items, r => do
    let update ← f.set depth d
    readRow s depth close fs (index + 1) items (update r)
  | f :: fs, index, [], r => do
    lift (check close.listFault?)
    if f.absence = .default then readRow s depth close fs index [] r
    else .error (.mismatch (.length index s.title s.fields.length))

/-- The reader of a record. -/
def reader (s : Shape σ) : Reader σ := fun depth d =>
  match d with
  | .object members close => do
    let depth ← lift (enter depth)
    let (seen, r) ← s.readMembers depth members [] s.initial
    lift (check close.objectFault?)
    match s.missing? seen with
    | some name => .error (.mismatch (.missing name))
    | none => .ok r
  | .list items close => do
    let depth ← lift (enter depth)
    s.readRow depth close s.fields 0 items s.initial
  | d => Reader.mismatch s.title d

end Shape

end Gutter.Json
