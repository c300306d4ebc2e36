import Gutter.Shell.Date
import Gutter.Shell.Rules.State
import Gutter.Shell.Rules.Token

/-!
# Running scripts of rules

What the expressions and actions of a script do. Functions can call themselves and loops can go on for
ever, so each step uses up some fuel; a script without fuel ends.
-/

namespace Gutter.Shell.Rules

namespace Run

/-! ## Records -/

def fileLimit : Nat := 100000

def openFile (x : Supply) (name : String) : Run Unit := do
  setVariable x "FILENAME" (.given name)
  setVariable x "FNR" (.number 0.0)
  modify fun s => { s with fileNumber := 0 }
  match ← contentsOf x name with
  | .ok bs => modify fun s => { s with input? := some (characters bs), hasOpened := true }
  | .error .isDirectory => die x ("read error (" ++ FileError.isDirectory.reason ++ ")")
  | .error e => die x ("cannot open \"" ++ name ++ "\" (" ++ e.reason ++ ")")

def isTaken (script : Script) (name : String) : Bool :=
  name ∈ Token.keywords || name ∈ Token.forms || Function.table.any (·.1 = name) ||
    script.definitions.any (·.1 = name)

def assign (x : Supply) (script : Script) (name value : String) : Run Unit := do
  let isTable ← match ← meaning? name with
    | some (.table _) => pure true
    | _ => pure false
  if isTable || isTaken script name then
    fail x ("cannot command line assign to " ++ name ++ "\n\ttype clash or keyword")
  else setVariable x name (.given value)

/-- Opens the next file that the arguments name, and gives variables values that stand in front of it.
Without files it is the input. -/
def openNext (x : Supply) (script : Script) : (fuel : Nat) → Run Bool
  | 0 => return false
  | fuel + 1 => do
    let s ← get
    let count := Number.toInt32 (← valueOf "ARGC").toFloat
    if count ≤ s.argument then
      if s.hasOpened then return false
      else
        openFile x "-"
        return true
    else
      set { s with argument := s.argument + 1 }
      let key : Key := .number s.argument
      if !(← onTable "ARGV" (Table.contains key)) then openNext x script fuel
      else
        let arg ← textOf (← onTable "ARGV" (Table.get key))
        if arg.isEmpty then openNext x script fuel
        else
          match assignment? arg with
          | some (name, value) =>
            let text := String.ofList (Scanner.unescape (value.length + 1) value.toList)
            assign x script name text
            openNext x script fuel
          | none =>
            openFile x arg
            return true

def count (x : Supply) (name : String) : Run Unit := do
  let v ← valueOf name
  setVariable x name (.number (v.toFloat + 1.0))

/-- The next record of the files. -/
def nextRecord (x : Supply) (script : Script) : (fuel : Nat) → Run (Option String)
  | 0 => return none
  | fuel + 1 => do
    match (← get).input? with
    | none => if ← openNext x script fileLimit then nextRecord x script fuel else return none
    | some cs =>
      match ← split x cs with
      | none =>
        modify fun s => { s with input? := none }
        nextRecord x script fuel
      | some (record, rest) =>
        modify fun s => { s with input? := some rest }
        count x "NR"
        count x "FNR"
        modify fun s => { s with recordNumber := s.recordNumber + 1, fileNumber := s.fileNumber + 1 }
        return some record

/-- The next record of something that is read by its name. -/
def springRecord (x : Supply) (name : String) (isCommand : Bool) : Run (Option String) := do
  let isIt (y : Spring) : Bool := y.name = name && y.isCommand = isCommand
  match (← get).springs.find? isIt with
  | none => return none
  | some spring =>
    match ← split x spring.rest with
    | none => return none
    | some (record, rest) =>
      let advance (y : Spring) : Spring := if isIt y then { y with rest } else y
      modify fun s => { s with springs := s.springs.map advance }
      return some record

/-- Opens something to be read by its name; the answer tells whether that is possible. -/
def openSpring (x : Supply) (name : String) (isCommand : Bool) : Run Bool := do
  if (← get).springs.any fun y => y.name = name && y.isCommand = isCommand then return true
  else if isCommand then
    flush
    let (bs, status) ← command x "/bin/sh" name none true
    let spring : Spring := { name, isCommand, rest := characters bs, status }
    modify fun s => { s with springs := spring :: s.springs }
    return true
  else
    match ← contentsOf x name with
    | .ok bs =>
      let spring : Spring := { name, isCommand, rest := characters bs }
      modify fun s => { s with springs := spring :: s.springs }
      return true
    | .error .isDirectory => die x ("read error (" ++ FileError.isDirectory.reason ++ ")")
    | .error _ => return false

/-! ## Functions -/

/-- A format with values filled in. What is filled in before there is a fault goes to `partly`, and
`name` is the word in the script that asks for it. -/
def filled (x : Supply) (name : String) (vs : List Value) (partly : String → Run Unit) :
    Run String := do
  let text ← textOf (vs.head?.getD .unset)
  let format ← format
  let (cs, fault?) := fill (·.toText format) (text.length + 1) 0 text.toList vs.tail []
  match fault? with
  | none => return String.ofList cs
  | some f =>
    partly (String.ofList cs)
    match f with
    | .tooFew => fail x ("not enough arguments passed to " ++ name ++ "(\"" ++ text ++ "\")")
    | .conversion n =>
      let place := "(number " ++ toString n ++ ") in "
      fail x ("improper conversion" ++ place ++ name ++ "(\"" ++ text ++ "\")")

def operate (o : Operation) (a b : Float) : Float :=
  match o with
  | .plus => a + b
  | .minus => a - b
  | .times => a * b
  | .divide => a / b
  | .remainder => Number.remainder a b
  | .power => a.pow b

/-- The value of a function that is always there. -/
def apply (x : Supply) (f : Function) (vs : List Value) : Run Value := do
  let first := vs.head?.getD .unset
  let second := vs[1]?.getD .unset
  let real (f : Float → Float) : Run Value := return .number (f first.toFloat)
  match f with
  | .index => return .ofNat (indexOf (← textOf first) (← textOf second))
  | .substr =>
    return .text (partOf (← textOf first) second.toFloat (vs[2]?.map Value.toFloat))
  | .sin => real Float.sin
  | .cos => real Float.cos
  | .atan2 => return .number (Float.atan2 first.toFloat second.toFloat)
  | .exp => real Float.exp
  | .log => real Float.log
  | .sqrt => real Float.sqrt
  | .int => real fun y => ((Number.truncate? y).map Number.ofInt).getD y
  | .rand =>
    let random := ((← get).random * 1103515245 + 12345) % Nat.pow 2 31
    modify fun s => { s with random }
    return .number (Float.ofNat random / Float.ofNat (Nat.pow 2 31))
  | .srand =>
    let old := (← get).seed
    let seed := if vs.isEmpty then Number.ofInt Date.now else first.toFloat
    modify fun s => { s with seed, random := ((Number.truncate? seed).getD 0).toNat + 1 }
    return .number old
  | .close => return .number (Number.ofInt (← close x (← textOf first)))
  | .system =>
    flush
    let (_, status) ← command x "sh" (← textOf first) none false
    return .ofNat status
  | .toUpper => return .text ((← textOf first).map Char.toUpper)
  | .toLower => return .text ((← textOf first).map Char.toLower)
  | .flush =>
    flush
    return .number 0.0
  | .format => return .text (← filled x "sprintf" vs fun _ => pure ())
  | .time => return .number (Number.ofInt Date.now)
  | .timeText =>
    let format ← if vs.isEmpty then pure "%c" else textOf first
    let moment := if vs.length < 2 then Date.now else (Number.truncate? second.toFloat).getD 0
    return .text ((Date.ofMoment moment).write format)
  | .timeOf =>
    let text ← textOf first
    let parts := (Separator.blanks.split text).map fun s =>
      (Number.truncate? (Number.ofText s)).getD 0
    match parts with
    | year :: month :: day :: hour :: minute :: second :: _ =>
      let m := month - 1
      let days := Date.dayNumber (year + m / 12) (m % 12 + 1).toNat day
      return .number (Number.ofInt (days * 86400 + hour * 3600 + minute * 60 + second))
    | _ => return .number (-1.0)

def holds (c : Comparison) (o : Ordering) : Bool :=
  match c with
  | .less => o = .lt
  | .lessEqual => o ≠ .gt
  | .equal => o = .eq
  | .unequal => o ≠ .eq
  | .greaterEqual => o ≠ .lt
  | .greater => o = .gt

def undecided : Run Meaning := do
  let n := (← get).tables.size
  modify fun s => { s with tables := s.tables.push .empty }
  return .undecided n

def passed (name : String) : Run Meaning := do
  if name = "NF" then return .value (← valueOf name)
  else
    match ← meaning? name with
    | some m => return m
    | none =>
      let m ← undecided
      setMeaning name m
      return m

def lengthOf (name : String) : Run Nat := do
  match ← meaning? name with
  | some (.table n) | some (.undecided n) => return ((← get).tables.getD n .empty).size
  | _ => return (← textOf (← valueOf name)).length

def splitInto (array text : String) (separator : Separator) : Run Value := do
  let parts := separator.split text
  let table : Table :=
    if parts.isEmpty then .empty else .sequence (parts.map Value.given).toArray
  onTable array fun _ => ((), table)
  return .ofNat parts.length

/-! ## Expressions and actions -/

mutual

/-- The value of an expression. -/
def eval (x : Supply) (script : Script) : (fuel : Nat) → Expr → Run Value
  | 0, _ => throw .broken
  | fuel + 1, e => do
    let value (e : Expr) : Run Value := eval x script fuel e
    let real (e : Expr) : Run Float := return (← value e).toFloat
    let text (e : Expr) : Run String := do textOf (← value e)
    let test (e : Expr) : Run Bool := return (← value e).isTrue
    let regex (e : Expr) : Run Regex := do
      match e with
      | .regex r => return r
      | e => pattern x (← text e)
    let accept (p? : Option Place) (record? : Option String) : Run Value := do
      match record? with
      | none => return .number 0.0
      | some record =>
        match p? with
        | none => setRecord (.given record)
        | some p =>
          let t ← target x script fuel p
          store x t (.given record)
        return .number 1.0
    match e with
    | .number y => return .number y
    | .text s => return .text s
    | .regex r =>
      let record ← textOf (← get).record.text
      return .ofBool (findIn r (bytesOf record) 0).isSome
    | .place p =>
      let t ← target x script fuel p
      load t
    | .assign p op e =>
      let t ← target x script fuel p
      let v ← value e
      match op with
      | none =>
        store x t v
        return v
      | some op =>
        let v := Value.number (operate op (← load t).toFloat v.toFloat)
        store x t v
        return v
    | .step p goesUp isNew =>
      let t ← target x script fuel p
      let old := (← load t).toFloat
      let new := if goesUp then old + 1.0 else old - 1.0
      store x t (.number new)
      return .number (if isNew then new else old)
    | .operate op a b =>
      let y ← real a
      let z ← real b
      return .number (operate op y z)
    | .compare c a b =>
      let v ← value a
      let w ← value b
      return .ofBool (holds c (Value.order (← format) v w))
    | .join a b =>
      let s ← text a
      let t ← text b
      return .text (s ++ t)
    | .isMatch isNegated a p =>
      let s ← text a
      let r ← regex p
      return .ofBool ((findIn r (bytesOf s) 0).isSome != isNegated)
    | .both a b => if ← test a then return .ofBool (← test b) else return .ofBool false
    | .either a b => if ← test a then return .ofBool true else return .ofBool (← test b)
    | .opposite a => return .ofBool !(← test a)
    | .negative a => return .number (-(← real a))
    | .positive a => return .number (← real a)
    | .choice c a b => if ← test c then value a else value b
    | .hasKey keys array =>
      let key ← keyOfAll (← keys.mapM value)
      return .ofBool (← onTable array (Table.contains key))
    | .call name args => call x script fuel name args
    | .apply f args =>
      let vs ← args.mapM value
      apply x f vs
    | .length none =>
      let s ← get
      return .ofNat (← textOf s.record.text).length
    | .length (some e) => return .ofNat (← text e).length
    | .lengthOf name => return .ofNat (← lengthOf name)
    | .split e array separator? =>
      let s ← text e
      match separator? with
      | none => splitInto array s (← get).separator
      | some (.regex r) => splitInto array s (.matching r)
      | some e =>
        let between ← text e
        match Separator.ofText between with
        | .ok separator => splitInto array s separator
        | .error _ =>
          let r ← pattern x between
          splitInto array s (.matching r)
    | .find e p =>
      let s ← text e
      let r ← regex p
      let found? := findIn r (bytesOf s) 0
      let start := (found?.map fun (i, _) => i + 1).getD 0
      setVariable x "RSTART" (.ofNat start)
      setVariable x "RLENGTH"
        ((found?.map fun (i, j) => Value.ofNat (j - i)).getD (.number (-1.0)))
      return .ofNat start
    | .replace isGlobal p new place? =>
      let r ← regex p
      let new ← text new
      let t ← match place? with
        | none => pure (.field 0)
        | some p => target x script fuel p
      let (s, n) := replaceIn r new isGlobal (← textOf (← load t))
      if n ≠ 0 then store x t (.text s)
      return .ofNat n
    | .read place? =>
      let record? ← nextRecord x script fileLimit
      accept place? record?
    | .readFile place? e =>
      let name ← text e
      if ← openSpring x name false then
        let record? ← springRecord x name false
        accept place? record?
      else return .number (-1.0)
    | .readCommand place? e =>
      let name ← text e
      let _ ← openSpring x name true
      let record? ← springRecord x name true
      accept place? record?

/-- A place with all that it depends on worked out. -/
def target (x : Supply) (script : Script) : (fuel : Nat) → Place → Run Target
  | 0, _ => throw .broken
  | fuel + 1, p => do
    match p with
    | .variable name => return .variable name
    | .element array keys =>
      let key ← keyOfAll (← keys.mapM (eval x script fuel))
      return .element array key
    | .field e =>
      let y := (← eval x script fuel e).toFloat
      let n := Number.toInt32 y
      if !(0.0 ≤ y) then fail x ("negative field index $" ++ (Value.number y).toText "%.6g")
      return .field n.toNat

/-- The value of a function that the script defines. -/
def call (x : Supply) (script : Script) : (fuel : Nat) → String → List Expr → Run Value
  | 0, _, _ => throw .broken
  | fuel + 1, name, args => do
    match script.definitions.lookup name with
    | none => return .unset
    | some d =>
      let given ← args.mapM fun
        | .place (.variable s) => passed s
        | e => return .value (← eval x script fuel e)
      let missing ← (d.parameters.drop given.length).mapM fun _ => undecided
      let outer := (← get).locals
      modify fun s => { s with locals := d.parameters.zip (given ++ missing) }
      let v ← tryCatch (do runAll x script fuel d.body; return .unset) fun
        | .give v => return v
        | stop => throw stop
      modify fun s => { s with locals := outer }
      return v

def runAll (x : Supply) (script : Script) : (fuel : Nat) → List Action → Run Unit
  | 0, _ => throw .broken
  | _, [] => return
  | fuel + 1, a :: rest => do
    run x script fuel a
    runAll x script fuel rest

/-- Runs an action. -/
def run (x : Supply) (script : Script) : (fuel : Nat) → Action → Run Unit
  | 0, _ => throw .broken
  | fuel + 1, a => do
    let value (e : Expr) : Run Value := eval x script fuel e
    match a with
    | .nothing => return
    | .evaluate e =>
      let _ ← value e
    | .print isFormat args goal =>
      let vs ← args.mapM value
      let goal? ← match goal with
        | none => pure none
        | some (direction, e) => pure (some (direction, ← textOf (← value e)))
      let put (text : String) : Run Unit :=
        match goal? with
        | none => emit (Text.Octets.toBytes text)
        | some (direction, name) => send x direction name (Text.Octets.toBytes text)
      if isFormat then
        put (← filled x "printf" vs put)
      else
        let numbers ← textIn "OFMT"
        let record := (← get).record.text
        let vs := if vs.isEmpty then [record] else vs
        let between ← textIn "OFS"
        let last ← textIn "ORS"
        put (between.intercalate (vs.map (·.toText numbers)) ++ last)
    | .block actions => runAll x script fuel actions
    | .conditional c a b =>
      if (← value c).isTrue then run x script fuel a else run x script fuel b
    | .loop c body => repeatWhile x script fuel (some c) none body
    | .loopAfter body c =>
      if ← runBody x script fuel body then repeatWhile x script fuel (some c) none body
    | .count start c step body =>
      if let some e := start then
        let _ ← value e
      repeatWhile x script fuel c step body
    | .each name array body =>
      let keys ← onTable array Table.keys
      repeatEach x script fuel name keys body
    | .next => throw .next
    | .nextFile => throw .nextFile
    | .exit e =>
      if let some e := e then
        let n := Number.toInt32 (← value e).toFloat
        modify fun s => { s with status := (n % 256).toNat }
      throw .exit
    | .give e =>
      match e with
      | none => throw (.give .unset)
      | some e => throw (.give (← value e))
    | .leave => throw .leave
    | .again => throw .again
    | .erase array keys =>
      let key ← keyOfAll (← keys.mapM value)
      onTable array fun t => ((), t.erase key)
    | .clear array => onTable array fun _ => ((), .empty)

/-- Runs the body of a loop; the answer tells whether the loop goes on. -/
def runBody (x : Supply) (script : Script) : (fuel : Nat) → Action → Run Bool
  | 0, _ => throw .broken
  | fuel + 1, body =>
    tryCatch (do run x script fuel body; return true) fun
      | .leave => return false
      | .again => return true
      | stop => throw stop

/-- Runs an action while a condition holds, and evaluates an expression after each time. -/
def repeatWhile (x : Supply) (script : Script) :
    (fuel : Nat) → (condition step : Option Expr) → Action → Run Unit
  | 0, _, _, _ => throw .broken
  | fuel + 1, condition, step, body => do
    let isWanted ← match condition with
      | none => pure true
      | some c => pure (← eval x script fuel c).isTrue
    if isWanted then
      if ← runBody x script fuel body then
        if let some e := step then
          let _ ← eval x script fuel e
        repeatWhile x script fuel condition step body

def repeatEach (x : Supply) (script : Script) :
    (fuel : Nat) → (name : String) → List String → Action → Run Unit
  | 0, _, _, _ => throw .broken
  | _, _, [], _ => return
  | fuel + 1, name, key :: keys, body => do
    setVariable x name (.text key)
    if ← runBody x script fuel body then repeatEach x script fuel name keys body

end

/-! ## Scripts -/

def depth : Nat := 100000000

/-- Runs the actions of a rule; without any, the record is printed. -/
def runActions (x : Supply) (script : Script) (actions? : Option (List Action)) : Run Unit :=
  match actions? with
  | some actions => runAll x script depth actions
  | none => run x script depth (.print false [] none)

def runEdge (x : Supply) (script : Script) (isStart : Bool) : Run Unit := do
  for rule in script.rules do
    match rule.condition with
    | .atStart => if isStart then runActions x script rule.actions?
    | .atEnd => if !isStart then runActions x script rule.actions?
    | _ => pure ()

/-- Runs the rules on a record. -/
def runRecord (x : Supply) (script : Script) : Run Unit := do
  let test (e : Expr) : Run Bool := return (← eval x script depth e).isTrue
  for (rule, i) in script.rules.zipIdx do
    match rule.condition with
    | .atStart | .atEnd => pure ()
    | .always => runActions x script rule.actions?
    | .when e => if ← test e then runActions x script rule.actions?
    | .range start stop =>
      let isInside : Bool := i ∈ (← get).started
      let isWanted ← if isInside then pure true else test start
      if isWanted then
        if ← test stop then modify fun s => { s with started := s.started.filter (· ≠ i) }
        else if !isInside then modify fun s => { s with started := i :: s.started }
        runActions x script rule.actions?

/-- Runs the rules on record after record. -/
def runRecords (x : Supply) (script : Script) : (fuel : Nat) → Run Unit
  | 0 => return
  | fuel + 1 => do
    match ← nextRecord x script fileLimit with
    | none => return
    | some record =>
      setRecord (.given record)
      tryCatch (runRecord x script) fun
        | .next => return
        | .nextFile => modify fun s => { s with input? := none }
        | stop => throw stop
      runRecords x script fuel

def untilExit (part : Run Unit) : Run Bool :=
  tryCatch (do part; return true) fun
    | .exit => return false
    | .broken => throw .broken
    | _ => return true

/-- Runs a script. -/
def runScript (x : Supply) (script : Script) : Run Unit := do
  let goesOn ← untilExit (runEdge x script true)
  let isAtEnd (rule : Rule) : Bool := match rule.condition with
    | .atEnd => true
    | _ => false
  let readsRecords := script.rules.any fun rule =>
    match rule.condition with
    | .atStart => false
    | _ => true
  if goesOn && readsRecords then
    let _ ← untilExit (runRecords x script depth)
  modify fun s => { s with locals := [] }
  if script.rules.any isAtEnd then
    let _ ← untilExit (runEdge x script false)

end Run

namespace Script

/-- Runs a script with some arguments, after variables have been given values. -/
def execute (x : Supply) (script : Script) (assigned : List (String × String))
    (args : List String) : Ending :=
  let globals : List (String × Meaning) :=
    [("NR", .value (.number 0.0)), ("FNR", .value (.number 0.0)), ("FS", .value (.text " ")),
      ("RS", .value (.text "\n")), ("OFS", .value (.text " ")), ("ORS", .value (.text "\n")),
      ("CONVFMT", .value (.text "%.6g")), ("OFMT", .value (.text "%.6g")),
      ("SUBSEP", .value (.text "\x1C")), ("FILENAME", .value (.text "")),
      ("RSTART", .value (.number 0.0)), ("RLENGTH", .value (.number (-1.0))),
      ("ARGC", .value (.ofNat (args.length + 1)))]
  let start : State := { progress := .start x, globals, unread := x.input }
  let lastPart := (x.name.splitOn "/").getLast?.getD x.name
  let whole : Run Unit := do
    for (arg, i) in (lastPart :: args).zipIdx do
      Run.onTable "ARGV" fun t => ((), t.put (.number i) (.given arg))
    for (name, value) in x.environment do
      Run.onTable "ENVIRON" fun t => ((), t.put (.text name) (.given value))
    for (name, value) in assigned do
      Run.assign x script name value
    Run.runScript x script
  let finish : Run Unit := do
    Run.closeAll x
    Run.flush
  let (_, s) := StateT.run (ExceptT.run whole) start
  let (_, s) := StateT.run (ExceptT.run finish) s
  { s.progress.ending with status := .code s.status }

end Script

end Gutter.Shell.Rules
