import Gutter.Shell.Token

/-!
# Reading scripts

A text is read a line at a time: what stands on the lines before a fault is a script, and is run
before the fault is noticed.
-/

namespace Gutter.Shell

/-- The commands that are part of the language itself; nothing else can have their names. -/
def specialCommands : List String :=
  [":", ".", "break", "continue", "eval", "exec", "exit", "export", "readonly", "return", "set",
    "local", "shift", "times", "trap", "unset"]

def assignment? (pieces : Word) (lead : String) : Option (String × Word) :=
  let name := lead.toList.takeWhile (· ≠ '=')
  let value := lead.toList.drop (name.length + 1)
  if name.length < lead.length && isName (String.ofList name) then
    some (String.ofList name,
      if value.isEmpty then pieces.tail else .text (String.ofList value) false :: pieces.tail)
  else none

mutual

/-- A script within a word. In parentheses it ends at the closing one; otherwise it ends with the
text. -/
def readNested : (fuel : Nat) → (inParentheses : Bool) → Reader Script
  | 0, _ => Reader.fail .openQuote
  | fuel + 1, inParentheses => do
    let body ← readList fuel true
    if inParentheses then
      let t ← readToken (readNested fuel) fuel
      if t.isSign ")" then return body else Reader.refuse t (some "\")\"")
    else return body

def next : (fuel : Nat) → Reader Token
  | 0 => Reader.fail .openQuote
  | fuel + 1 => readToken (readNested fuel) fuel

def nextBelow : (fuel : Nat) → Reader Token
  | 0 => Reader.fail .openQuote
  | fuel + 1 => do
    match ← next fuel with
    | .newline => nextBelow fuel
    | t => return t

/-- The next token where a command may start: a word that is an alias gives way to its text. -/
def nextCommand : (fuel : Nat) → Reader Token
  | 0 => Reader.fail .openQuote
  | fuel + 1 => do
    let isHeld := (← get).held.isSome
    let t ← next fuel
    match t with
    | .word _ lead true =>
      if isHeld || lead ∈ Token.reservedWords then return t
      else if ← Reader.openAlias lead then nextCommand fuel
      else return t
    | t => return t

def nextCommandBelow : (fuel : Nat) → Reader Token
  | 0 => Reader.fail .openQuote
  | fuel + 1 => do
    match ← nextCommand fuel with
    | .newline => nextCommandBelow fuel
    | t => return t

/-- Commands up to a token before which a list ends; perhaps there are none. -/
def readList : (fuel : Nat) → (optional : Bool) → Reader Script
  | 0, _ => Reader.fail .openQuote
  | fuel + 1, optional => do
    let t ← nextCommandBelow fuel
    Reader.hold t
    match t with
    | .finish => return .nothing
    | t => if optional && t.endsList then return .nothing else readMore fuel .nothing

/-- Commands after some commands. -/
def readMore : (fuel : Nat) → (first : Script) → Reader Script
  | 0, _ => Reader.fail .openQuote
  | fuel + 1, first => do
    let command ← readAndOr fuel
    let t ← next fuel
    let all := first.join (if t.isSign "&" then .background command else command)
    match t with
    | .newline => continueList fuel all
    | t =>
      if t.isSign ";" || t.isSign "&" then continueList fuel all
      else
        Reader.hold t
        return all

def continueList : (fuel : Nat) → (first : Script) → Reader Script
  | 0, _ => Reader.fail .openQuote
  | fuel + 1, first => do
    let t ← nextCommandBelow fuel
    Reader.hold t
    if t.endsList then return first else readMore fuel first

def readAndOr : (fuel : Nat) → Reader Script
  | 0 => Reader.fail .openQuote
  | fuel + 1 => do
    let first ← readPipeline fuel
    readAndOrMore fuel first

/-- What is joined to some pipelines. -/
def readAndOrMore : (fuel : Nat) → (first : Script) → Reader Script
  | 0, _ => Reader.fail .openQuote
  | fuel + 1, first => do
    let t ← next fuel
    if t.isSign "&&" || t.isSign "||" then
      Reader.hold (← nextCommandBelow fuel)
      let second ← readPipeline fuel
      readAndOrMore fuel (if t.isSign "&&" then .andThen first second else .orElse first second)
    else
      Reader.hold t
      return first

/-- Commands joined by pipes, perhaps negated. -/
def readPipeline : (fuel : Nat) → Reader Script
  | 0 => Reader.fail .openQuote
  | fuel + 1 => do
    let t ← nextCommand fuel
    let isNegated := t.isReserved "!"
    if !isNegated then Reader.hold t
    let parts ← readParts fuel
    let pipeline : Script := match parts with
      | [part] => part
      | parts => .pipe parts
    return if isNegated then .negation pipeline else pipeline

/-- The commands of a pipeline. -/
def readParts : (fuel : Nat) → Reader (List Script)
  | 0 => Reader.fail .openQuote
  | fuel + 1 => do
    let first ← readCommand fuel
    let t ← next fuel
    if t.isSign "|" then
      Reader.hold (← nextCommandBelow fuel)
      return first :: (← readParts fuel)
    else
      Reader.hold t
      return [first]

/-- One command. -/
def readCommand : (fuel : Nat) → Reader Script
  | 0 => Reader.fail .openQuote
  | fuel + 1 => do
    let t ← nextCommand fuel
    let line := (← get).line
    let close (sign : Bool) (s : String) : Reader Unit := do
      let t ← next fuel
      if !(if sign then t.isSign s else t.isReserved s) then
        Reader.refuse t (some ("\"" ++ s ++ "\""))
    let redirected (body : Script) : Reader Script := do
      match ← readRedirections fuel with
      | [] => return body
      | rs => return .redirected line body rs
    if t.isSign "(" then
      let body ← readList fuel false
      close true ")"
      return .subshell line body (← readRedirections fuel)
    else
      match t.reserved? with
      | some "\x7b" =>
        let body ← readList fuel false
        close false "\x7d"
        redirected body
      | some "if" =>
        let body ← readConditional fuel
        close false "fi"
        redirected body
      | some "while" | some "until" =>
        let condition ← readList fuel false
        close false "do"
        let body ← readList fuel false
        close false "done"
        redirected (.loop (t.isReserved "while") condition body)
      | some "for" => redirected (← readEach fuel line)
      | some "case" =>
        match ← next fuel with
        | .word subject _ _ =>
          let t ← nextBelow fuel
          if !t.isReserved "in" then Reader.refuse t (some "\"in\"")
          else redirected (.choice line subject (← readBranches fuel))
        | t => Reader.refuse t (some "word")
      | some _ => Reader.refuse t none
      | none =>
        match t with
        | .word .. | .redirection .. | .document .. =>
          Reader.hold t
          readSimple fuel line [] [] []
        | t => Reader.refuse t none

/-- What follows "if" or "elif", up to the closing "fi". -/
def readConditional : (fuel : Nat) → Reader Script
  | 0 => Reader.fail .openQuote
  | fuel + 1 => do
    let condition ← readList fuel false
    let t ← next fuel
    if !t.isReserved "then" then Reader.refuse t (some "\"then\"")
    else
      let consequence ← readList fuel false
      let t ← next fuel
      if t.isReserved "elif" then
        return .conditional condition consequence (← readConditional fuel)
      else if t.isReserved "else" then
        return .conditional condition consequence (← readList fuel false)
      else
        Reader.hold t
        return .conditional condition consequence .nothing

/-- What follows "for". -/
def readEach : (fuel : Nat) → (line : Nat) → Reader Script
  | 0, _ => Reader.fail .openQuote
  | fuel + 1, line => do
    match ← next fuel with
    | .word _ name true =>
      if !isName name then Reader.fail .badVariable
      else
        let t ← nextBelow fuel
        let words ←
          if t.isReserved "in" then
            let words ← readWords fuel
            let t ← next fuel
            match t with
            | .newline => pure words
            | t => if t.isSign ";" then pure words else Reader.refuse t.asWord none
          else
            if !t.isSign ";" then Reader.hold t
            pure [[.parameter "@" .value true]]
        let t ← nextBelow fuel
        if !t.isReserved "do" then Reader.refuse t (some "\"do\"")
        else
          let body ← readList fuel false
          let t ← next fuel
          if !t.isReserved "done" then Reader.refuse t (some "\"done\"")
          else return .each line name words body
    | _ => Reader.fail .badVariable

def readWords : (fuel : Nat) → Reader (List Word)
  | 0 => Reader.fail .openQuote
  | fuel + 1 => do
    match ← next fuel with
    | .word w _ _ => return w :: (← readWords fuel)
    | t =>
      Reader.hold t
      return []

/-- The branches of a choice, up to its end. -/
def readBranches : (fuel : Nat) → Reader (List Branch)
  | 0 => Reader.fail .openQuote
  | fuel + 1 => do
    let t ← nextBelow fuel
    if t.isReserved "esac" then return []
    else
      let t ← if t.isSign "(" then next fuel else pure t
      let patterns ← readPatterns fuel t
      let body ← readList fuel true
      let t ← nextBelow fuel
      if t.isReserved "esac" then return [.on patterns body]
      else if t.isSign ";;" then return .on patterns body :: (← readBranches fuel)
      else Reader.refuse t (some "\";;\"")

def readPatterns : (fuel : Nat) → (first : Token) → Reader (List Word)
  | 0, _ => Reader.fail .openQuote
  | fuel + 1, first => do
    let pattern : Word := match first with
      | .word w _ _ => w
      | _ => []
    let t ← next fuel
    if t.isSign "|" then return pattern :: (← readPatterns fuel (← next fuel))
    else if t.isSign ")" then return [pattern]
    else Reader.refuse t.asWord (some "\")\"")

/-- What a redirection leads to. -/
def readTarget : (fuel : Nat) → Token → Reader Redirection
  | 0, _ => Reader.fail .openQuote
  | fuel + 1, t => do
    match t with
    | .redirection stream mode =>
      match ← next fuel with
      | .word w _ _ => return .connect stream mode w
      | t => Reader.refuse t none
    | .document stream indented =>
      let (cs, _) := afterBlanks 0 (← Reader.rest)
      if cs.head?.all endsWord then
        let t ← next fuel
        Reader.refuse t none
      else
        modify fun s => { s with rest := cs }
        return .connect stream .document (← readDocument (readNested fuel) fuel indented)
    | t => Reader.refuse t none

/-- The redirections that start here. -/
def readRedirections : (fuel : Nat) → Reader (List Redirection)
  | 0 => Reader.fail .openQuote
  | fuel + 1 => do
    let t ← next fuel
    match t with
    | .redirection .. | .document .. =>
      let r ← readTarget fuel t
      return r :: (← readRedirections fuel)
    | t =>
      Reader.hold t
      return []

/-- The rest of a command that consists of words; of what is already read the last comes first. -/
def readSimple : (fuel : Nat) → (line : Nat) → List (String × Word) → List Word →
    List Redirection → Reader Script
  | 0, _, _, _, _ => Reader.fail .openQuote
  | fuel + 1, line, as, ws, rs => do
    let before := (← Reader.rest).length
    let isHeld := (← get).held.isSome
    let t ← if ws.isEmpty then nextCommand fuel else next fuel
    let t ← match t with
      | .word _ lead true => do
        let start := (← Reader.rest).length + lead.length
        if ws.isEmpty || isHeld then pure t
        else if ← Reader.isBehindBlank before start then
          if ← Reader.openAlias lead then next fuel else pure t
        else pure t
      | t => pure t
    match t with
    | .word w lead _ =>
      match if ws.isEmpty then assignment? w lead else none with
      | some a => readSimple fuel line (a :: as) ws rs
      | none => readSimple fuel line as (w :: ws) rs
    | .redirection .. | .document .. =>
      let r ← readTarget fuel t
      readSimple fuel line as ws (r :: rs)
    | t =>
      let command : Script := .command line as.reverse ws.reverse rs.reverse
      match ws, as, rs with
      | [w], [], [] =>
        if t.isSign "(" then
          let t ← next fuel
          if !t.isSign ")" then Reader.refuse t.asWord (some "\")\"")
          else if !(w.isBare && isName w.lead) || w.lead ∈ specialCommands then
            Reader.fail .badName
          else
            Reader.hold (← nextCommandBelow fuel)
            return .definition w.lead (← readCommand fuel)
        else
          Reader.hold t
          return command
      | _, _, _ =>
        Reader.hold t
        return command

end

/-- Steps that suffice to read a text: each character is looked at by a few readers inside one
another. -/
def steps (cs : List Char) : Nat := 24 * (cs.length + 2)

/-- The commands on a line after some commands; `none` at the end of the text. -/
def readLine (fuel : Nat) : (limit : Nat) → (first : Option Script) → Reader (Option Script)
  | 0, first => return first
  | limit + 1, first => do
    let t ← nextCommand fuel
    match t, first with
    | .newline, first => return some (first.getD .nothing)
    | .finish, none => return none
    | .finish, some first => return some first
    | t, first =>
      Reader.hold t
      let command ← readAndOr fuel
      let t ← next fuel
      let all := (first.getD .nothing).join (if t.isSign "&" then .background command else command)
      match t with
      | .newline | .finish => return some all
      | t =>
        if t.isSign ";" || t.isSign "&" then readLine fuel limit (some all)
        else Reader.refuse t none

/-- The script on the next line of a text, or on more lines if it does not end there, and the place
behind it; no script at the end of the text. -/
def Script.next (fuel : Nat) (s : Scanner) : Except (Nat × Fault) (Option Script × Scanner) :=
  readLine fuel fuel none s

/-- A text as a word: what quotes mean is left to its context. -/
def Word.ofText? (context : Context) (text : String) : Option Word :=
  let fuel := steps text.toList
  match readPieces (readNested fuel) fuel context 0 [] { rest := text.toList } with
  | .ok (w, _) => some w
  | .error _ => none

end Gutter.Shell
