import Gutter.Shell.Rules.Record
import Gutter.Shell.Rules.Script
import Gutter.Shell.Rules.Table
import Gutter.Shell.Tool

/-!
# The state of a script of rules

The variables, the record, and what is open while a script of rules runs.
-/

namespace Gutter.Shell.Rules

/-- What a name stands for. -/
inductive Meaning where
  | value (v : Value)
  | table (n : Nat)
  | undecided (n : Nat)
  deriving Inhabited

/-- An output that is open. -/
structure Sink where
  name : String
  isCommand : Bool
  pending : List (List UInt8) := []

/-- Something that is read record by record. -/
structure Spring where
  name : String
  isCommand : Bool
  rest : List Char
  status : Nat := 0

/-- How far a script has come. -/
structure State where
  progress : Progress
  pending : List (List UInt8) := []
  globals : List (String × Meaning)
  locals : List (String × Meaning) := []
  tables : Array Table := #[]
  record : Record := {}
  separator : Separator := .blanks
  sinks : List Sink := []
  springs : List Spring := []
  input? : Option (List Char) := none
  recordNumber : Nat := 0
  fileNumber : Nat := 0
  argument : Nat := 1
  hasOpened : Bool := false
  unread : Except FileError (List UInt8)
  started : List Nat := []
  seed : Float := 0.0
  random : Nat := 1
  status : Nat := 0

/-- Why a script does not go on with its next action. -/
inductive Stop where
  | leave
  | again
  | next
  | nextFile
  | exit
  | give (v : Value)
  | broken

abbrev Run := ExceptT Stop (StateM State)

/-- A place that is known wholly. -/
inductive Target where
  | variable (name : String)
  | element (array : String) (key : Key)
  | field (n : Nat)

namespace Run

/-! ## Complaints -/

def flush : Run Unit := modify fun s =>
  { s with progress := s.progress.write 1 s.pending.reverse.flatten, pending := [] }

def die {α : Type} (x : Supply) (text : String) : Run α := do
  modify fun s => { s with progress := s.progress.complain x 2 text, status := 2 }
  throw .broken

/-! ## Variables -/

/-- What a name stands for; nothing if that is not known. -/
def meaning? (name : String) : Run (Option Meaning) := do
  let s ← get
  return s.locals.lookup name <|> s.globals.lookup name

def setMeaning (name : String) (m : Meaning) : Run Unit := modify fun s =>
  let put (xs : List (String × Meaning)) : List (String × Meaning) :=
    xs.map fun x => if x.1 = name then (name, m) else x
  if s.locals.any (·.1 = name) then { s with locals := put s.locals }
  else if s.globals.any (·.1 = name) then { s with globals := put s.globals }
  else { s with globals := (name, m) :: s.globals }

def valueOf (name : String) : Run Value := do
  if name = "NF" then return .ofNat (← get).record.fields.size
  match ← meaning? name with
  | some (.value v) => return v
  | _ => return .unset

def format : Run String := do
  match ← valueOf "CONVFMT" with
  | .text s | .given s => return s
  | v => return v.toText "%.6g"

def textOf (v : Value) : Run String := do
  match v with
  | .text s | .given s => return s
  | .unset => return ""
  | v => return v.toText (← format)

def textIn (name : String) : Run String := do textOf (← valueOf name)

def fail {α : Type} (x : Supply) (text : String) : Run α := do
  let file ← textIn "FILENAME"
  let s ← get
  die x ("run time error: " ++ text ++ "\n\tFILENAME=\"" ++ file ++ "\" FNR=" ++
    toString s.fileNumber ++ " NR=" ++ toString s.recordNumber)

def pattern (x : Supply) (text : String) : Run Regex := do
  match Pattern.ofText text with
  | .ok r => return r
  | .error f => fail x ("regular expression compile failed (" ++ f.message ++ ")\n" ++ text)

def setRecord (v : Value) : Run Unit := do
  let text ← textOf v
  modify fun s => { s with record := .ofText s.separator v text }

def setFields (fields : Array Value) : Run Unit := do
  let format ← format
  let between ← textIn "OFS"
  modify fun s => { s with record := .withFields (·.toText format) between fields }

/-- Gives a variable a value. -/
def setVariable (x : Supply) (name : String) (v : Value) : Run Unit := do
  if (← get).locals.any (·.1 = name) then setMeaning name (.value v)
  else
    match name with
    | "NF" =>
      let count := Number.toInt32 v.toFloat
      if count < 0 then fail x "negative value assigned to NF"
      setFields (Record.resized count.toNat (← get).record.fields)
    | "FS" =>
      setMeaning name (.value v)
      let text ← textOf v
      match Separator.ofText text with
      | .ok separator => modify fun s => { s with separator }
      | .error f => fail x ("regular expression compile failed (" ++ f.message ++ ")\n" ++ text)
    | _ => setMeaning name (.value v)

/-! ## Tables -/

/-- The number of the table that a name stands for. -/
def tableOf (name : String) : Run Nat := do
  match ← meaning? name with
  | some (.table n) => return n
  | some (.undecided n) =>
    setMeaning name (.table n)
    return n
  | _ =>
    let n := (← get).tables.size
    modify fun s => { s with tables := s.tables.push .empty }
    setMeaning name (.table n)
    return n

def onTable {α : Type} (name : String) (f : Table → α × Table) : Run α := do
  let n ← tableOf name
  let (a, t) := f ((← get).tables.getD n .empty)
  modify fun s => { s with tables := s.tables.setIfInBounds n t }
  return a

/-- The key that a value is. -/
def keyOf (v : Value) : Run Key := do
  match v with
  | .unset => return .text ""
  | .text s | .given s => return .text s
  | .number y =>
    match Number.key? y with
    | some n => return .number n
    | none =>
      let format ← format
      let (text, _) := fill (fun _ => "") (format.length + 1) 0 format.toList [.number y] []
      return .text (String.ofList text)

def keyOfAll (vs : List Value) : Run Key := do
  match vs with
  | [v] => keyOf v
  | vs =>
    let between ← textIn "SUBSEP"
    let texts ← vs.mapM textOf
    return .text (between.intercalate texts)

/-! ## Places -/

def load (t : Target) : Run Value := do
  match t with
  | .variable name => valueOf name
  | .element array key => onTable array (Table.get key)
  | .field n => return (← get).record.get n

def store (x : Supply) (t : Target) (v : Value) : Run Unit := do
  match t with
  | .variable name => setVariable x name v
  | .element array key => onTable array fun t => ((), t.put key v)
  | .field 0 => setRecord v
  | .field n =>
    let fields := (← get).record.fields
    setFields ((Record.resized (max n fields.size) fields).setIfInBounds (n - 1) v)

/-! ## Commands -/

/-- Runs a command of the shell, which is called by a name, with some input. Gives its output if it is
not to be written, and how the command ended. -/
def command (x : Supply) (shell text : String) (input? : Option (List UInt8)) (captures : Bool) :
    Run (List UInt8 × Nat) := do
  let s ← get
  let errand : Errand :=
    { words := [shell, "-c", text]
      environment := x.environment
      input := (input?.map .ok).getD s.unread
      files := s.progress.files
      directory := x.directory }
  match x.launch errand with
  | .error _ => return ([], 127)
  | .ok e =>
    let consumed := if input?.isSome then 0 else e.consumed
    let written := if captures then e.written.filter (·.1 ≠ 1) else e.written
    modify fun s => { s with
      progress := s.progress.absorb { e with written, consumed }
      unread := s.unread.map (·.drop consumed) }
    let status := match e.status with
      | .code n => n % 256
      | .signal n => 256 + n
    return (if captures then e.stream 1 else [], status)

/-- Ends an output; the answer is the status of its command. -/
def closeSink (x : Supply) (sink : Sink) : Run Nat := do
  if sink.isCommand then
    return (← command x "/bin/sh" sink.name (some sink.pending.reverse.flatten) false).2
  else return 0

/-- Ends all outputs and inputs with a name; the answer is the status of the command, or minus one if
nothing is open. -/
def close (x : Supply) (name : String) : Run Int := do
  let s ← get
  let sinks := s.sinks.filter (·.name = name)
  let springs := s.springs.filter (·.name = name)
  set { s with
    sinks := s.sinks.filter (·.name ≠ name)
    springs := s.springs.filter (·.name ≠ name) }
  let mut status : Int := -1
  for spring in springs do
    status := spring.status
  for sink in sinks do
    status := ← closeSink x sink
  return status

def closeAll (x : Supply) : Run Unit := do
  let sinks := (← get).sinks
  modify fun s => { s with sinks := [] }
  for sink in sinks do
    let _ ← closeSink x sink

/-! ## Output -/

def emit (bs : List UInt8) : Run Unit := modify fun s => { s with pending := bs :: s.pending }

/-- Writes to a file or a command. -/
def send (x : Supply) (direction : Direction) (name : String) (bs : List UInt8) : Run Unit := do
  if direction ≠ .command && name = "/dev/stdout" then emit bs
  else if direction ≠ .command && name = "/dev/stderr" then
    modify fun s => { s with progress := s.progress.write 2 bs }
  else
    let isCommand : Bool := direction = .command
    let isIt (sink : Sink) : Bool := sink.name = name && sink.isCommand = isCommand
    let s ← get
    let sink := (s.sinks.find? isIt).getD { name, isCommand }
    let isNew := !s.sinks.any isIt
    if isCommand then
      if isNew then flush
      let sink := { sink with pending := bs :: sink.pending }
      modify fun s => { s with sinks := sink :: s.sinks.filter fun y => !isIt y }
    else
      let keeps : Bool := !isNew || direction = .append
      match x.store name keeps bs s.progress with
      | .ok progress =>
        set { s with progress, sinks := sink :: s.sinks.filter fun y => !isIt y }
      | .error e =>
        die x ("cannot open \"" ++ name ++ "\" for output (" ++ e.reason ++ ")")

/-! ## Input -/

def characters (bs : List UInt8) : List Char := bs.map fun b => Char.ofNat b.toNat

def takeInput : Run (Except FileError (List UInt8)) := do
  let s ← get
  let size := (s.unread.toOption.getD []).length
  set { s with
    unread := s.unread.map fun _ => []
    progress := { s.progress with consumed := s.progress.consumed + size } }
  return s.unread

/-- The contents of a file; a dash stands for the input. -/
def contentsOf (x : Supply) (name : String) : Run (Except FileError (List UInt8)) := do
  let here : Supply := { x with files := (← get).progress.files }
  if name = "-" || name = "/dev/stdin" then takeInput
  else
    let source := here.source name
    if source.isInput then takeInput else return source.contents

def split (x : Supply) (cs : List Char) : Run (Option (String × List Char)) := do
  let separator ← textIn "RS"
  match nextRecord separator cs with
  | .ok r => return r
  | .error f => fail x ("regular expression compile failed (" ++ f.message ++ ")\n" ++ separator)

def assignment? (arg : String) : Option (String × String) :=
  let cs := arg.toList
  let name := cs.takeWhile fun c => c.isAlphanum || c = '_'
  match name, cs.drop name.length with
  | c :: _, '=' :: value =>
    if c.isDigit then none else some (String.ofList name, String.ofList value)
  | _, _ => none

end Run

end Gutter.Shell.Rules
