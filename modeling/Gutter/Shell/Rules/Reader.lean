import Gutter.Shell.Rules.Token

/-!
# Reading scripts of rules

Operators hold their operands with a strength between one and sixteen. After a fault in an action the
reader goes on behind the end of that action, so that several faults are told at once.
-/

namespace Gutter.Shell.Rules

/-- What a name stands for. -/
inductive NameKind where
  | variable
  | table
  deriving DecidableEq, Repr

/-- Where actions stand. -/
inductive Scope where
  | start
  | stop
  | main
  | definition
  deriving DecidableEq, Repr

/-- A call of a function: its name, how many values it gets, and the line. -/
structure CallSite where
  name : String
  count : Nat
  line : Nat

/-- How far a script is read. -/
structure Reading where
  scanner : Scanner
  ahead? : Option Token := none
  names : List (String × NameKind) := [("ENVIRON", .table), ("ARGV", .table)]
  parameters : List (String × Option NameKind) := []
  scope : Scope := .main
  loops : Nat := 0
  calls : List CallSite := []
  rules : List Rule := []
  definitions : List (String × Definition) := []

abbrev Reader := ExceptT Unit (StateM Reading)

namespace Reader

def scan (f : Scanner → Scanner) : Reader Unit := modify fun r => { r with scanner := f r.scanner }

def peek : Reader Token := do
  let r ← get
  match r.ahead? with
  | some t => return t
  | none =>
    let (t, scanner) := r.scanner.next (r.scanner.rest.length + 2)
    set { r with scanner, ahead? := some t }
    if scanner.isHopeless then throw ()
    return t

def advance : Reader Unit := modify fun r => { r with ahead? := none }

def advanceLines : Reader Unit := do
  advance
  scan Scanner.skip

def complain (text : String) : Reader Unit := do
  scan (·.complain text)
  if (← get).scanner.isHopeless then throw ()

/-- The next token does not fit. -/
def fault {α : Type} : Reader α := do
  let t ← peek
  let s := (← get).scanner
  let near (what : String) : String := "missing " ++ what ++ " near " ++ t.shown
  let s := match t with
    | .unexpected c => s.complainOf c
    | .finish =>
      s.complain (if 0 < s.braces then near "\x7d" else "syntax error at or near " ++ t.shown)
    | .keyword "BEGIN" | .keyword "END" =>
      if 0 < s.braces then { s.complain (near "\x7d") with braces := 0 }
      else s.complain ("syntax error at or near " ++ t.shown)
    | t =>
      s.complain (if t.isSeparator && 0 < s.parens then near ")"
        else "syntax error at or near " ++ t.shown)
  scan fun _ => s
  throw ()

/-- Whether the next token is a sign; if it is, it is passed. -/
def takes (sign : String) : Reader Bool := do
  if (← peek).isSign sign then
    advance
    return true
  else return false

def expect (sign : String) : Reader Unit := do
  if !(← takes sign) then fault

def separator : Reader Unit := do
  if (← peek).isSeparator then advance else fault

def name : Reader String := do
  match ← peek with
  | .name s =>
    advance
    return s
  | _ => fault

/-- Notes what a name stands for. -/
def note (name : String) (kind : NameKind) : Reader Unit := do
  let r ← get
  let title (kind : NameKind) : String := if kind = .variable then "variable " else "array "
  match r.parameters.lookup name with
  | some none =>
    let known (x : String × Option NameKind) : String × Option NameKind :=
      if x.1 = name then (name, some kind) else x
    set { r with parameters := r.parameters.map known }
  | some (some known) =>
    if known ≠ kind then complain ("illegal reference to local " ++ title known ++ name)
  | none =>
    match r.names.lookup name with
    | none => set { r with names := (name, kind) :: r.names }
    | some known => if known ≠ kind then complain ("illegal reference to " ++ title known ++ name)

def pattern (text : String) : Reader Regex := do
  match Pattern.ofText text with
  | .ok r => return r
  | .error f =>
    complain ("regular expression compile failed (" ++ f.message ++ ")\n" ++ text)
    return .empty

def asPattern : Expr → Reader Expr
  | .text s => return .regex (← pattern s)
  | e => return e

structure Operand where
  value : Expr
  place? : Option Place := none

def Operand.ofPlace (p : Place) : Operand := ⟨.place p, some p⟩

def assignment? (t : Token) : Option (Option Operation) :=
  match t with
  | .sign s =>
    [("=", none), ("+=", some Operation.plus), ("-=", some .minus), ("*=", some .times),
      ("/=", some .divide), ("%=", some .remainder), ("^=", some .power)].lookup s
  | _ => none

def operation? (t : Token) : Option (Operation × Nat) :=
  match t with
  | .sign s =>
    [("+", Operation.plus, 10), ("-", .minus, 10), ("*", .times, 11), ("/", .divide, 11),
      ("%", .remainder, 11), ("^", .power, 14)].lookup s
  | _ => none

def comparison? (t : Token) : Option Comparison :=
  match t with
  | .sign s =>
    [("<", Comparison.less), ("<=", .lessEqual), ("==", .equal), ("!=", .unequal),
      (">=", .greaterEqual), (">", .greater)].lookup s
  | _ => none

def joins : Token → Bool
  | .number .. | .text _ | .regex _ | .name _ | .special _ | .function _ | .builtin _ | .field _ =>
    true
  | .keyword s => s = "getline"
  | .sign s => s ∈ ["(", "!", "++", "--", "$"]
  | _ => false

/-- The place that a value in parentheses is in: only fields keep theirs. -/
def innerPlace? : Expr → Option Place
  | .place (.field n) => some (.field n)
  | .place (.variable s) => if s ∈ Token.specials then some (.variable s) else none
  | _ => none

mutual

def expression : (fuel least : Nat) → Reader Expr
  | 0, _ => fault
  | fuel + 1, least => do
    let o ← operand fuel 10
    goOn fuel least o

/-- What follows a value in an expression. -/
def goOn : (fuel least : Nat) → Operand → Reader Expr
  | 0, _, _ => fault
  | fuel + 1, least, o => do
    match o.place?, assignment? (← peek) with
    | some p, some op =>
      advance
      let value ← expression fuel 1
      return .assign p op value
    | _, _ =>
      let a ← joined fuel o.value
      combined fuel least a

def joined : (fuel : Nat) → Expr → Reader Expr
  | 0, _ => fault
  | fuel + 1, a => do
    if joins (← peek) then
      let b ← operand fuel 10
      joined fuel (.join a b.value)
    else return a

/-- The operators behind a value that hold it less tightly than joining does. -/
def combined : (fuel least : Nat) → Expr → Reader Expr
  | 0, _, _ => fault
  | fuel + 1, least, a => do
    let t ← peek
    let binary (strength : Nat) (make : Expr → Expr → Expr) : Reader Expr := do
      advance
      let b ← expression fuel (strength + 1)
      combined fuel least (make a b)
    if t.isSign "?" && least ≤ 2 then
      advance
      let b ← expression fuel 1
      expect ":"
      let c ← expression fuel 2
      combined fuel least (.choice a b c)
    else if t.isSign "||" && least ≤ 3 then binary 3 .either
    else if t.isSign "&&" && least ≤ 4 then binary 4 .both
    else if t.isKeyword "in" && least ≤ 5 then
      advance
      let array ← name
      note array .table
      combined fuel least (.hasKey [a] array)
    else if (t.isSign "~" || t.isSign "!~") && least ≤ 6 then
      advance
      let b ← expression fuel 7
      let b ← asPattern b
      combined fuel least (.isMatch (t.isSign "!~") a b)
    else
      match comparison? t with
      | some c => if least ≤ 7 then binary 7 (.compare c) else return a
      | none => return a

/-- A value with operators on numbers of at least some strength. -/
def operand : (fuel least : Nat) → Reader Operand
  | 0, _ => fault
  | fuel + 1, least => do
    let unary (make : Expr → Expr) : Reader Operand := do
      advance
      let a ← operand fuel 13
      operated fuel least ⟨make a.value, none⟩
    match ← peek with
    | .sign "!" => unary .opposite
    | .sign "-" => unary .negative
    | .sign "+" => unary .positive
    | _ =>
      let o ← primary fuel
      operated fuel least o

/-- The operators on numbers behind a value. -/
def operated : (fuel least : Nat) → Operand → Reader Operand
  | 0, _, _ => fault
  | fuel + 1, least, a => do
    let t ← peek
    if t.isSign "|" && least ≤ 13 then
      advance
      if !(← peek).isKeyword "getline" then fault
      advance
      let target ← target? fuel
      operated fuel least ⟨.readCommand target a.value, none⟩
    else
      match operation? t with
      | none => return a
      | some (op, strength) =>
        if strength < least then return a
        else
          advance
          let b ← operand fuel (if op = .power then strength else strength + 1)
          operated fuel least ⟨.operate op a.value b.value, none⟩

/-- The place behind a word that reads, if there is one. -/
def target? : (fuel : Nat) → Reader (Option Place)
  | 0 => fault
  | fuel + 1 => do
    match ← peek with
    | .name s =>
      advance
      return some (← place fuel s)
    | .special s =>
      advance
      return some (.variable s)
    | .field n =>
      advance
      return some (.field (.number (Float.ofNat n)))
    | .sign "$" =>
      advance
      return some (← field fuel)
    | _ => return none

/-- A field in parentheses. -/
def enclosed : (fuel : Nat) → Reader Place
  | 0 => fault
  | fuel + 1 => do
    expect "("
    match ← peek with
    | .sign "(" =>
      let p ← enclosed fuel
      expect ")"
      return p
    | .special _ | .field _ | .sign "$" =>
      match ← target? fuel with
      | some p =>
        expect ")"
        return p
      | none => fault
    | _ => fault

/-- The place of a name that has been read: a variable, or an element of a table. -/
def place : (fuel : Nat) → String → Reader Place
  | 0, _ => fault
  | fuel + 1, s => do
    if ← takes "[" then
      let keys ← list fuel "]"
      note s .table
      return .element s keys
    else
      note s .variable
      return .variable s

def field : (fuel : Nat) → Reader Place
  | 0 => fault
  | fuel + 1 => do
    match ← peek with
    | .name s =>
      advance
      return .field (.place (← place fuel s))
    | _ =>
      let o ← operand fuel 16
      return .field o.value

def list : (fuel : Nat) → (close : String) → Reader (List Expr)
  | 0, _ => fault
  | fuel + 1, close => do
    let e ← expression fuel 1
    if ← takes "," then return e :: (← list fuel close)
    else
      expect close
      return [e]

def stepped : (fuel : Nat) → Place → Reader Operand
  | 0, _ => fault
  | _ + 1, p => do
    if ← takes "++" then return ⟨.step p true false, none⟩
    else if ← takes "--" then return ⟨.step p false false, none⟩
    else return .ofPlace p

def named : (fuel : Nat) → String → Reader Operand
  | 0, _ => fault
  | fuel + 1, s => do
    let p ← place fuel s
    stepped fuel p

/-- What stands in parentheses behind the opening one: one expression, or several. -/
def inner : (fuel : Nat) → Reader (List Expr)
  | 0 => fault
  | fuel + 1 => list fuel ")"

/-- A value without operators around it. -/
def primary : (fuel : Nat) → Reader Operand
  | 0 => fault
  | fuel + 1 => do
    match ← peek with
    | .number x _ =>
      advance
      return ⟨.number x, none⟩
    | .text s =>
      advance
      return ⟨.text s, none⟩
    | .regex s =>
      let r ← pattern s
      advance
      return ⟨.regex r, none⟩
    | .name s =>
      advance
      named fuel s
    | .special s =>
      advance
      stepped fuel (.variable s)
    | .field n =>
      advance
      stepped fuel (.field (.number (Float.ofNat n)))
    | .sign "$" =>
      advance
      let p ← field fuel
      stepped fuel p
    | .sign "(" =>
      advance
      let es ← inner fuel
      parenthesized fuel es
    | .sign "++" | .sign "--" =>
      let goesUp := (← peek).isSign "++"
      advance
      match ← target? fuel with
      | some p => return ⟨.step p goesUp true, none⟩
      | none =>
        let p ← enclosed fuel
        return ⟨.step p goesUp true, none⟩
    | .keyword "getline" =>
      advance
      scan ({ · with isReading := true })
      let target ← target? fuel
      match ← peek with
      | .input =>
        advance
        let file ← operand fuel 14
        return ⟨.readFile target file.value, none⟩
      | _ =>
        scan ({ · with isReading := false })
        return ⟨.read target, none⟩
    | .function s =>
      advance
      expect "("
      let line := (← get).scanner.tokenLine
      let args ← if ← takes ")" then pure [] else arguments fuel
      modify fun r => { r with calls := ⟨s, args.length, line⟩ :: r.calls }
      return ⟨.call s args, none⟩
    | .builtin s =>
      advance
      let e ← builtin fuel s
      return ⟨e, none⟩
    | _ => fault

/-- A value in parentheses that have been read, or keys of a table. -/
def parenthesized : (fuel : Nat) → List Expr → Reader Operand
  | 0, _ => fault
  | fuel + 1, es => do
    match es with
    | [e] =>
      match innerPlace? e with
      | some p => stepped fuel p
      | none => return ⟨e, none⟩
    | es =>
      if !(← peek).isKeyword "in" then fault
      advance
      let array ← name
      note array .table
      return ⟨.hasKey es array, none⟩

/-- The values that a function gets, up to the closing parenthesis. A name alone may be that of a
table. -/
def arguments : (fuel : Nat) → Reader (List Expr)
  | 0 => fault
  | fuel + 1 => do
    let e ← match ← peek with
      | .name s =>
        advance
        let t ← peek
        if t.isSign "," || t.isSign ")" then pure (.place (.variable s))
        else
          let o ← named fuel s
          let o ← operated fuel 10 o
          goOn fuel 1 o
      | _ => expression fuel 1
    if ← takes "," then return e :: (← arguments fuel)
    else
      expect ")"
      return [e]

/-- A function that is always there, behind its name. -/
def builtin : (fuel : Nat) → String → Reader Expr
  | 0, _ => fault
  | fuel + 1, s => do
    match s with
    | "length" =>
      if !(← takes "(") then return .length none
      else if ← takes ")" then return .length none
      else
        match ← peek with
        | .name s =>
          advance
          if ← takes ")" then return .lengthOf s
          else
            let o ← named fuel s
            let o ← operated fuel 10 o
            let e ← goOn fuel 1 o
            expect ")"
            return .length (some e)
        | _ =>
          let e ← expression fuel 1
          expect ")"
          return .length (some e)
    | "split" =>
      expect "("
      let e ← expression fuel 1
      expect ","
      let array ← name
      note array .table
      if ← takes "," then
        let separator ← expression fuel 1
        expect ")"
        return .split e array (some separator)
      else
        expect ")"
        return .split e array none
    | "match" =>
      expect "("
      let e ← expression fuel 1
      expect ","
      let p ← expression fuel 1
      let p ← asPattern p
      expect ")"
      return .find e p
    | "sub" | "gsub" =>
      expect "("
      let p ← expression fuel 1
      let p ← asPattern p
      expect ","
      let new ← expression fuel 1
      if ← takes "," then
        match ← target? fuel with
        | none => fault
        | some p' =>
          expect ")"
          return .replace (s = "gsub") p new (some p')
      else
        expect ")"
        return .replace (s = "gsub") p new none
    | s =>
      expect "("
      let args ← if ← takes ")" then pure [] else list fuel ")"
      match Function.table.lookup s with
      | none => fault
      | some (f, least, most) =>
        if args.length < least || most < args.length then
          complain ("wrong number of arguments in call to " ++ s)
        return .apply f args

end

/-! ## Actions -/

/-- What a statement prints, behind its word. -/
def printed (fuel : Nat) : Reader (List Expr) := do
  let more (e : Expr) : Reader (List Expr) := do
    if ← takes "," then
      let rec go : (fuel : Nat) → Reader (List Expr)
        | 0 => fault
        | n + 1 => do
          let e ← expression fuel 1
          if ← takes "," then return e :: (← go n) else return [e]
      return e :: (← go fuel)
    else return [e]
  match ← peek with
  | .output _ => return []
  | .sign "(" =>
    advance
    if ← takes ")" then return []
    else
      let es ← inner fuel
      if 1 < es.length && !(← peek).isKeyword "in" then return es
      else
        let o ← parenthesized fuel es
        let o ← operated fuel 10 o
        let e ← goOn fuel 1 o
        more e
  | t =>
    if t.isSeparator then return []
    else
      let e ← expression fuel 1
      more e

/-- Passes what is left of an action with a fault in it. -/
def recover : (fuel : Nat) → Reader Unit
  | 0 => throw ()
  | fuel + 1 => do
    if (← get).scanner.isHopeless then throw ()
    match ← peek with
    | .finish => throw ()
    | t =>
      advance
      if t.isSeparator then
        scan ({ · with parens := 0, isPrinting := false, isReading := false })
      else recover fuel

def inLoop {α : Type} (body : Reader α) : Reader α := do
  modify fun r => { r with loops := r.loops + 1 }
  let a ← tryCatch body fun _ => do
    modify fun r => { r with loops := r.loops - 1 }
    throw ()
  modify fun r => { r with loops := r.loops - 1 }
  return a

mutual

/-- An action with its end. -/
def action : (fuel : Nat) → Reader Action
  | 0 => fault
  | fuel + 1 => do
    let ended (a : Action) : Reader Action := do
      separator
      return a
    let optional : Reader (Option Expr) := do
      if (← peek).isSeparator then return none else return some (← expression fuel 1)
    match ← peek with
    | .sign "\x7b" => return .block (← block fuel)
    | .newline | .semicolon | .closing => ended .nothing
    | .keyword "if" =>
      advance
      expect "("
      let condition ← expression fuel 1
      expect ")"
      scan Scanner.skip
      let a ← attempt fuel
      if (← peek).isKeyword "else" then
        advanceLines
        let b ← attempt fuel
        return .conditional condition a b
      else return .conditional condition a .nothing
    | .keyword "while" =>
      advance
      expect "("
      let condition ← expression fuel 1
      expect ")"
      scan Scanner.skip
      let body ← inLoop (attempt fuel)
      return .loop condition body
    | .keyword "do" =>
      advanceLines
      let body ← inLoop (attempt fuel)
      if !(← peek).isKeyword "while" then fault
      advance
      expect "("
      let condition ← expression fuel 1
      expect ")"
      ended (.loopAfter body condition)
    | .keyword "for" =>
      advance
      expect "("
      loop fuel
    | .keyword "break" =>
      advance
      separator
      if (← get).loops = 0 then complain "break statement outside of loop"
      return .leave
    | .keyword "continue" =>
      advance
      separator
      if (← get).loops = 0 then complain "continue statement outside of loop"
      return .again
    | .keyword "next" =>
      advance
      separator
      if (← get).scope ≠ .main then complain "improper use of next"
      return .next
    | .keyword "nextfile" =>
      advance
      separator
      if (← get).scope ≠ .main then complain "improper use of nextfile"
      return .nextFile
    | .keyword "exit" =>
      advance
      let status ← optional
      ended (.exit status)
    | .keyword "return" =>
      advance
      let value ← optional
      separator
      if (← get).scope ≠ .definition then complain "return outside function body"
      return .give value
    | .keyword "delete" =>
      advance
      let array ← name
      if ← takes "[" then
        let keys ← list fuel "]"
        note array .table
        ended (.erase array keys)
      else
        note array .table
        ended (.clear array)
    | .keyword "print" | .keyword "printf" =>
      let isFormat := (← peek).isKeyword "printf"
      advance
      scan ({ · with isPrinting := true })
      let args ← printed fuel
      let target ← match ← peek with
        | .output d =>
          advance
          let e ← expression fuel 1
          pure (some (d, e))
        | _ => pure none
      separator
      scan ({ · with isPrinting := false })
      if isFormat && args.isEmpty then complain "no arguments in call to printf"
      return .print isFormat args target
    | _ =>
      let e ← expression fuel 1
      ended (.evaluate e)

/-- An action with its end; one with a fault in it does nothing. -/
def attempt : (fuel : Nat) → Reader Action
  | 0 => fault
  | fuel + 1 => tryCatch (action fuel) fun _ => do
    recover fuel
    return .nothing

/-- A loop that counts or goes through a table, behind its opening parenthesis. -/
def loop : (fuel : Nat) → Reader Action
  | 0 => fault
  | fuel + 1 => do
    let semicolon : Reader Unit := do
      match ← peek with
      | .semicolon => advance
      | _ => fault
    let body : Reader Action := do
      expect ")"
      scan Scanner.skip
      inLoop (attempt fuel)
    let rest (start : Option Expr) : Reader Action := do
      semicolon
      let condition ← match ← peek with
        | .semicolon => pure none
        | _ => pure (some (← expression fuel 1))
      semicolon
      let step ← if (← peek).isSign ")" then pure none else pure (some (← expression fuel 1))
      let body ← body
      return .count start condition step body
    match ← peek with
    | .semicolon => rest none
    | .name s =>
      advance
      if (← peek).isKeyword "in" then
        advance
        let array ← name
        note s .variable
        note array .table
        let body ← body
        return .each s array body
      else
        let o ← named fuel s
        let o ← operated fuel 10 o
        let start ← goOn fuel 1 o
        rest (some start)
    | _ =>
      let start ← expression fuel 1
      rest (some start)

def block : (fuel : Nat) → Reader (List Action)
  | 0 => fault
  | fuel + 1 => do
    expect "\x7b"
    actions fuel

def actions : (fuel : Nat) → Reader (List Action)
  | 0 => fault
  | fuel + 1 => do
    if ← takes "\x7d" then return []
    else
      let a ← attempt fuel
      return a :: (← actions fuel)

end

/-! ## Rules -/

def parameters : (fuel : Nat) → (known : List String) → Reader (List String)
  | 0, _ => fault
  | fuel + 1, known => do
    let s ← name
    if s ∈ known then complain (s ++ " is duplicated in argument list")
    if ← takes "," then return s :: (← parameters fuel (s :: known))
    else
      expect ")"
      return [s]

/-- A function that is defined, behind its word. -/
def definition (fuel : Nat) : Reader Unit := do
  let s ← match ← peek with
    | .name s | .function s =>
      scan fun x => { x with functions := s :: x.functions }
      advance
      pure s
    | _ => fault
  if (← get).definitions.any (·.1 = s) then complain ("redefinition of " ++ s)
  expect "("
  let ps ← if ← takes ")" then pure [] else parameters fuel []
  scan Scanner.skip
  modify fun r => { r with parameters := ps.map fun p => (p, none), scope := .definition }
  let body ← block fuel
  modify fun r => { r with
    parameters := []
    scope := .main
    definitions := r.definitions ++ [(s, ⟨ps, body⟩)] }

/-- A rule, or a function that is defined. -/
def rule (fuel : Nat) : Reader Unit := do
  let add (r : Rule) : Reader Unit := modify fun x => { x with rules := r :: x.rules, scope := .main }
  let optional : Reader (Option (List Action)) := do
    match ← peek with
    | .sign "\x7b" => return some (← block fuel)
    | t => if t.isSeparator then do advance; return none else fault
  match ← peek with
  | .keyword "function" =>
    advance
    definition fuel
  | .keyword "BEGIN" =>
    advance
    modify fun r => { r with scope := .start }
    let body ← block fuel
    add ⟨.atStart, some body⟩
  | .keyword "END" =>
    advance
    modify fun r => { r with scope := .stop }
    let body ← block fuel
    add ⟨.atEnd, some body⟩
  | .sign "\x7b" =>
    let body ← block fuel
    add ⟨.always, some body⟩
  | _ =>
    let start ← expression fuel 1
    if ← takes "," then
      let stop ← expression fuel 1
      let body ← optional
      add ⟨.range start stop, body⟩
    else
      let body ← optional
      add ⟨.when start, body⟩

/-- Passes what is left of a rule with a fault in it. -/
def recoverRule (size : Nat) : (fuel : Nat) → Reader Unit
  | 0 => throw ()
  | fuel + 1 => do
    if (← get).scanner.isHopeless then throw ()
    modify fun r => { r with parameters := [], scope := .main }
    match ← peek with
    | .finish => throw ()
    | .sign "\x7b" => do
      let _ ← block size
      return
    | _ =>
      advance
      recoverRule size fuel

def rules (size : Nat) : (fuel : Nat) → Reader Unit
  | 0 => return
  | fuel + 1 => do
    match ← peek with
    | .finish => return
    | _ =>
      tryCatch (rule size) fun _ => recoverRule size size
      rules size fuel

end Reader

namespace Script

/-- The complaints about functions that are called. -/
def callFaults (r : Reading) : List String :=
  let place := (r.scanner.file?.map (· ++ ": ")).getD ""
  let fault (line : Nat) (text : String) : String :=
    place ++ "line " ++ toString line ++ ": " ++ text
  r.calls.reverse.filterMap fun c =>
    match r.definitions.lookup c.name with
    | none => some (fault r.scanner.tokenLine ("function " ++ c.name ++ " never defined"))
    | some d =>
      if d.parameters.length < c.count then
        some (fault c.line ("too many arguments in call to " ++ c.name))
      else none

/-- The script that a text is, or the complaints about it. `file?` is the name of the file with the
text, if it is in one. -/
def ofText (file? : Option String) (text : String) : Except (List String) Script :=
  let cs := text.toList
  let scanner : Scanner := { rest := cs, file? }
  let size := 40 * cs.length + 100
  let (_, r) := (Reader.rules size (cs.length + 1)).run.run { scanner := scanner.skip }
  if !r.scanner.complaints.isEmpty then .error r.scanner.complaints.reverse
  else
    match callFaults r with
    | [] => .ok ⟨r.rules.reverse, r.definitions⟩
    | faults => .error faults

end Script

end Gutter.Shell.Rules
