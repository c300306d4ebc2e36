import Gutter.Shell.Expansion
import Gutter.Shell.Lookup
import Gutter.Shell.Loop
import Gutter.Shell.Redirection
import Gutter.Shell.Tools

/-!
# Running scripts

What a script does to the state of a shell. Definitions can call themselves, so each step into a
script or a shell uses up some fuel; a shell without fuel is one that has run out of memory.
-/

namespace Gutter.Shell

/-! ## Programs -/

/-- What a program works on that a shell starts. -/
def State.supply (l : Launch) (environment : List (String × String))
    (launch : Errand → Except FileError Ending) (s : State) : Supply :=
  { name := l.name
    args := l.args
    environment
    input := s.readable 0
    streams := fun n => if (s.stream? n).isSome then s.readable n else .error .notFound
    isFile := match s.stream? 0 with
      | some (_, .file ..) => true
      | _ => false
    hasOutput := (s.stream? 1).isSome
    outputFile := match s.stream? 1 with
      | some (_, .file l offset mode) =>
        some (l, if mode = .append then ((s.files.contents? l).getD []).length else offset)
      | _ => none
    files := s.files
    directory := s.directory
    mask := s.mask
    launch }

/-- The state after a program. If its output cannot be written, it complains and ends badly. -/
def State.afterTool (l : Launch) (e : Ending) (s : State) : State :=
  let s := { s with files := e.files, flow := .ended e.status }.consume 0 e.consumed
  let failed (reason : FileError) (s : State) : State :=
    let text := l.name ++ ": write error: " ++ reason.reason ++ "\n"
    { s.write 2 (Text.Octets.toBytes text) with
      flow := .ended (.code (Tool.writeFailure l.program)) }
  let (s, failure) := e.written.foldl (fun (s, failure) (n, bytes) =>
    match s.write? n bytes with
    | .ok s => (s, failure)
    | .error reason => (s, if n = 1 then failure <|> some reason else failure)) (s, none)
  failure.elim s fun reason => failed reason s

/-- The state in which a shell starts that another one starts, with the variables that it gets. -/
def State.child (name : String) (environment : List (String × String)) (s : State) : State :=
  let given := environment.filter fun x => isName x.1
  let isHere (path : String) : Bool :=
    path.startsWith "/" &&
      match s.files.lookup s.directory ⟨Text.Octets.toBytes path⟩ with
      | .ok (l, .directory) => l = s.directory
      | _ => false
  let path := ((given.reverse.lookup "PWD").filter isHere).getD (Builtin.pathOf s.directory)
  let bare : State :=
    { name
      number := s.number + 1
      directory := s.directory
      path
      files := s.files
      streams := s.streams
      descriptors := s.descriptors
      journal := s.journal
      mask := s.mask
      limits := s.limits
      traps := s.traps.filter fun x => x.1 ≠ 0 && x.2.isEmpty }
  let give (isExported : Bool) (s : State) (x : String × String) : State :=
    s.modifyVariable x.1 fun v =>
      { v with value := some x.2, isExported := v.isExported || isExported }
  let usual := [("PS4", "+ "), ("PS2", "> "), ("PS1", "# "), ("PATH", Files.searchPath)]
  let fixed := [("IFS", " \t\n"), ("OPTIND", "1"), ("PPID", toString s.number)]
  let named := fixed.foldl (give false) (given.foldl (give true) (usual.foldl (give false) bare))
  give true named ("PWD", path)

/-! ## Scripts -/

/-- The end of a command: a strict shell ends with one that fails, unless the failure is looked
at. -/
def judge (isTested : Bool) (s : State) : State :=
  match s.flow with
  | .failed | .ended _ => s
  | _ =>
    if s.has 'e' && !isTested && s.status ≠ 0 then { s with flow := .ended (.code s.status) } else s

def callLimit : Nat := 1000

/-- Shows a command before it runs, behind a text that is expanded for it. -/
def trace (capture : Script → State → String × State) (before : State)
    (assigned : List (String × String)) (words : List String) (s : State) : State :=
  if !s.has 'x' then s
  else
    let quiet := { s with
      descriptors := before.descriptors, options := s.options.filter (· ≠ 'x') }
    let (lead, quiet) := match (s.textOf? "PS4").bind (Word.ofText? .document) with
      | some w => expandText capture .none w quiet
      | none => ("", quiet)
    let texts := assigned.map (fun x => x.1 ++ "=" ++ x.2) ++ words
    let shown := quiet.write 2 (Text.Octets.toBytes (lead ++ " ".intercalate texts ++ "\n"))
    { shown with descriptors := s.descriptors, options := s.options, flow := s.flow }

/-- The output of a script as text: without zero bytes and the line breaks at its end. -/
def outputText (bs : List UInt8) : String :=
  Text.Octets.ofBytes ((bs.filter (· ≠ 0)).reverse.dropWhile (· = 0x0A)).reverse

/-- The words of a command without the word "command" and its options in front; `none` if it only
describes names. -/
def afterCommand : (fuel : Nat) → List String → Option (List String)
  | 0, words => some words
  | _, [] => some []
  | fuel + 1, word :: words =>
    match word.toList with
    | ['-', '-'] => some words
    | '-' :: c :: cs => if (c :: cs).all (· = 'p') then afterCommand fuel words else none
    | _ => some (word :: words)

/-- Runs the lines of a text one after the other. Each is read when the ones before it have run,
since they can define aliases; if `shows` is true, a shell can show what it reads. The status is zero
if there is nothing to run. -/
def runLines (runLine : Script → State → State) (shows : Bool) : (limit : Nat) → (ran : Bool) →
    Scanner → State → State
  | 0, _, _, s => s
  | limit + 1, ran, scanner, s =>
    if !s.isGoing then s
    else
      let scanner := { scanner with aliases := s.aliases }
      let size := Number.total (s.aliases.map fun x => x.2.length)
      let showing (cs : List Char) : State :=
        if shows && s.has 'v' then s.write 2 (Text.Octets.toBytes (String.ofList cs)) else s
      match Script.next (steps scanner.rest * (size + 1)) scanner with
      | .error (line, fault) =>
        let count := line + 1 - scanner.line
        let lines := ((String.ofList scanner.rest).splitOn "\n").take count
        { showing ("\n".intercalate lines ++ "\n").toList with line }.fail fault.message
      | .ok (none, _) =>
        let s := showing scanner.rest
        if ran then s else s.finish 0
      | .ok (some script, next) =>
        let s := showing (scanner.rest.take (scanner.rest.length - next.rest.length))
        match script with
        | .nothing => runLines runLine shows limit ran next s
        | script => runLines runLine shows limit true next (runLine script s)

mutual

/-- Runs a script. `isTested` says that its failure is looked at. -/
def run : (fuel : Nat) → (isTested : Bool) → Script → State → State
  | 0, _, _, s => { s with flow := .ended (.signal 11) }
  | fuel + 1, isTested, script, s =>
    let within (line : Nat) (redirections : List Redirection) (onFailure : State → State)
        (body : State → State) : State :=
      let s := { s with line }
      let (connections, s) := expandRedirections fuel redirections s
      if !s.isGoing then s
      else
        let inner := establishAll connections s
        if inner.isGoing then restore connections s (body inner)
        else onFailure (restore connections s inner)
    if s.has 'n' then s
    else
      match script with
      | .nothing => s
      | .command line as ws rs =>
        deliver fuel (judge isTested (runCommand fuel isTested line as ws rs s))
      | .sequence a b =>
        let s := run fuel isTested a s
        if s.isGoing then run fuel isTested b s else s
      | .andThen a b =>
        let s := run fuel true a s
        if s.isGoing && s.status = 0 then run fuel isTested b s else s
      | .orElse a b =>
        let s := run fuel true a s
        if s.isGoing && s.status ≠ 0 then run fuel isTested b s else s
      | .negation a =>
        let s := run fuel true a s
        if s.isGoing then s.finish (if s.status = 0 then 1 else 0) else s
      | .pipe parts =>
        let s := parts.foldl (fun s part => s.foresee part) s
        deliver fuel (judge isTested (runPipe fuel isTested s.status parts none s))
      | .background body =>
        let (i, outer) := s.addStream (.device .null)
        let after := runPart fuel false body (outer.connect 0 (some i)) outer
        let s := { after with streams := after.streams.take s.streams.length }
        let number := s.number + 100 + s.jobs.length
        deliver fuel { s with status := 0, jobs := (number, s.status) :: s.jobs }
      | .redirected line body rs =>
        within line rs (fun s => judge isTested { s with flow := .going, status := 2 })
          (run fuel isTested body)
      | .subshell line body rs =>
        deliver fuel (judge isTested
          (within line rs (fun s => { s with flow := .going, status := 2 })
            fun inner => runPart fuel isTested body inner inner))
      | .conditional condition a b =>
        let s := run fuel true condition s
        if !s.isGoing then s
        else if s.status = 0 then run fuel isTested a s
        else
          match b with
          | .nothing => s.finish 0
          | b => run fuel isTested b s
      | .each line name words body =>
        let (values, s) := expandWords (capture fuel) (fun _ => false) words none { s with line }
        if !s.isGoing then s
        else repeatEach name (run fuel isTested body) values 0 { s with loops := s.loops + 1 }
      | .loop whileTrue condition body =>
        repeatWhile whileTrue (run fuel true condition) (run fuel isTested body) loopLimit 0
          { s with loops := s.loops + 1 }
      | .choice line subject branches =>
        let (text, s) := expandText (capture fuel) .atStart subject { s with line }
        if !s.isGoing then s else runChoice fuel isTested text branches s
      | .definition name body =>
        { s.finish 0 with definitions := (name, body) :: s.definitions.filter (·.1 ≠ name) }

/-- Runs the first branch of which a pattern matches. -/
def runChoice : (fuel : Nat) → (isTested : Bool) → String → List Branch → State → State
  | 0, _, _, _, s => s
  | _, _, _, [], s => s.finish 0
  | fuel + 1, isTested, text, .on patterns body :: branches, s =>
    let (isMatch, s) := patterns.foldl (fun (isMatch, s) pattern =>
      if isMatch || !s.isGoing then (isMatch, s)
      else
        let (letters, s) := expandLetters (capture fuel) .atStart pattern s
        ((Pattern.ofLetters 0 letters).accepts text, s)) (false, s)
    if !s.isGoing then s
    else if isMatch then
      match body with
      | .nothing => s.finish 0
      | body => run fuel isTested body s
    else runChoice fuel isTested text branches s

/-- Runs the parts of a pipeline, each of which starts with the same status; `input` is the stream
that the first of them reads. -/
def runPipe : (fuel : Nat) → (isTested : Bool) → (status : Nat) → List Script →
    (input : Option Nat) → State → State
  | 0, _, _, _, _, s => s
  | _, _, _, [], _, s => s
  | fuel + 1, isTested, status, [part], input, s =>
    runPart fuel isTested part { (input.elim s fun i => s.connect 0 (some i)) with status } s
  | fuel + 1, isTested, status, part :: parts, input, s =>
    let (i, outer) := s.addStream (.collector [])
    let inner := (input.elim outer fun i => outer.connect 0 (some i)).connect 1 (some i)
    let after := runPart fuel isTested part { inner with status } outer
    let piped := { after with streams := after.streams.set i (.source (after.collected i)) }
    let last := runPipe fuel isTested status parts (some i) piped
    { last with streams := last.streams.take s.streams.length }

/-- Runs a script in a shell of its own that starts in one state; another one is the state of the
shell around it. -/
def runPart : (fuel : Nat) → (isTested : Bool) → Script → (inner outer : State) → State
  | 0, _, _, _, outer => outer
  | fuel + 1, isTested, body, inner, outer =>
    (finishShell fuel (run fuel isTested body inner.part)).afterPart outer

def capture : (fuel : Nat) → Script → State → String × State
  | 0, _, s => ("", s)
  | fuel + 1, body, s =>
    let (i, outer) := s.addStream (.collector [])
    let after := runPart fuel false body (outer.connect 1 (some i)) outer
    let text := outputText (after.collected i)
    (text, deliver fuel { after with
      streams := after.streams.take s.streams.length
      status := s.status
      substituted := after.status })

/-- The connections that redirections ask for. -/
def expandRedirections : (fuel : Nat) → List Redirection → State → List Connection × State
  | 0, _, s => ([], s)
  | _, [], s => ([], s)
  | fuel + 1, .connect stream mode target :: rs, s =>
    let tildes : Tildes := if mode = .document then .none else .atStart
    let (text, s) := expandText (capture fuel) tildes target s
    if !s.isGoing then ([], s)
    else if mode = .duplicate && text ≠ "-" &&
        !(text.length = 1 && text.toList.all Char.isDigit) then
      ([], s.fail "Syntax error: Bad fd number")
    else
      let (connections, s) := expandRedirections fuel rs s
      (⟨stream, mode, text⟩ :: connections, s)

/-- Gives variables their values, and lists them. -/
def assignAll : (fuel : Nat) → (before after : String → State → State) → List (String × Word) →
    State → List (String × String) × State
  | 0, _, _, _, s => ([], s)
  | _, _, _, [], s => ([], s)
  | fuel + 1, before, after, (name, word) :: as, s =>
    let (text, s) := expandText (capture fuel) .afterColons word s
    if !s.isGoing then ([], s)
    else
      let s := (before name s).assign name text
      if !s.isGoing then ([], s)
      else
        let (assigned, s) := assignAll fuel before after as (after name s)
        ((name, text) :: assigned, s)

/-- Runs a command that consists of words. -/
def runCommand : (fuel : Nat) → (isTested : Bool) → (line : Nat) → List (String × Word) →
    List Word → List Redirection → State → State
  | 0, _, _, _, _, _, s => s
  | fuel + 1, isTested, line, as, ws, rs, s =>
    let keeps (name : String) : Bool := name ∈ ["export", "readonly", "local", "alias"]
    let (words, s) := expandWords (capture fuel) keeps ws none { s with line, substituted := 0 }
    if !s.isGoing then s
    else
      let (connections, s) := expandRedirections fuel rs s
      if !s.isGoing then s
      else
        let isPlain := words.head? = some "command"
        let call := if isPlain then (afterCommand words.length words.tail).getD words else words
        let isSpecial := !isPlain && call.head?.any (· ∈ specialCommands)
        let inner := establishAll connections s
        if !inner.isGoing then
          let s := restore connections s inner
          if isSpecial then s else { s with flow := .going, status := 2 }
        else
          let lasts := isSpecial || call.isEmpty
          let start := if lasts then inner else inner.enter
          let before (name : String) : State → State := if lasts then id else State.hide name
          let mark (name : String) (s : State) : State :=
            if lasts && !(call.head? = some "exec" && call.length > 1) then s
            else s.modifyVariable name fun v => { v with isExported := true }
          let (assigned, start) := assignAll fuel before mark as start
          let after :=
            if !start.isGoing then start
            else
              let start := trace (capture fuel) s assigned words start
              match call with
              | [] => start.finish start.substituted
              | name :: args => callNamed fuel isTested (!isPlain) isSpecial name args start
          let after := if lasts then after else after.leave
          let after := if !lasts && as.any (·.1 = "PATH") then { after with tracked := s.tracked }
            else after
          if call = ["exec"] && after.isGoing then after else restore connections s after

/-- Runs a command by its name. -/
def callNamed : (fuel : Nat) → (isTested seesDefinitions isSpecial : Bool) → (name : String) →
    List String → State → State
  | 0, _, _, _, _, _, s => s
  | fuel + 1, isTested, seesDefinitions, isSpecial, name, args, s =>
    let builtin (action : State → State) : State :=
      let after := { action { s with caller := some name } with caller := s.caller }
      if after.flow = .failed && !isSpecial then { after with flow := .going, status := 2 }
      else after
    match if seesDefinitions then s.definitions.lookup name else none with
    | some body =>
      if callLimit ≤ s.calls then
        s.fail ("Maximum function recursion depth (" ++ toString callLimit ++ ") reached")
      else
        let after := run fuel isTested body
          { s with args, loops := 0, calls := s.calls + 1, optionPlace := (1, 0) }
        { after with
          args := s.args
          loops := s.loops
          calls := s.calls
          optionPlace := s.optionPlace
          flow := if after.flow = .returning then .going else after.flow }
    | none =>
      match name with
      | "eval" => builtin (runText fuel isTested false (" ".intercalate args))
      | "." => builtin (runFile fuel args)
      | "exec" => builtin (runInstead fuel args)
      | "type" => builtin (Builtin.describeAll true args)
      | "hash" => builtin (Builtin.hash args)
      | "command" =>
        builtin (Builtin.withOptions ['p', 'v', 'V'] [] (fun given names s =>
          Builtin.describeAll (given.any fun x => x.1 = 'V') (names.take 1) s) args)
      | name =>
        match Builtin.find? name with
        | some action => builtin (action args)
        | none =>
          match s.program name args with
          | .error e => s.refuse name e
          | .ok (path, launch) =>
            let s := s.track name path
            let after := runProgram fuel launch s.environment s
            let status := State.statusNumber after.exitStatus
            let next := { after with flow := .going, status }
            match after.flow with
            | .ended (.signal n) =>
              (signalText n).elim next fun text =>
                next.write 2 (Text.Octets.toBytes (text ++ "\n"))
            | _ => next

/-- Runs a program; the flow tells how it has ended. -/
def runProgram : (fuel : Nat) → Launch → (environment : List (String × String)) → State → State
  | 0, _, _, s => s
  | fuel + 1, l, environment, s =>
    match Tool.find? l.program with
    | some tool => s.afterTool l (tool (s.supply l environment (doErrand fuel s)))
    | none =>
      let inner := runShell fuel l.args (s.child l.name environment)
      { s with
        files := inner.files
        streams := inner.streams.take s.streams.length
        journal := inner.journal
        flow := .ended inner.exitStatus }

/-- Starts a program for another one. -/
def doErrand : (fuel : Nat) → State → Errand → Except FileError Ending
  | 0, _, _ => .error .notFound
  | _, _, { words := [], .. } => .error .notFound
  | fuel + 1, s, { words := name :: args, environment, input, files, directory } => do
    let searchPath := (environment.lookup "PATH").getD "/bin:/usr/bin"
    let (_, l) ← Launch.find files directory searchPath name args true
    let source := input.toOption.getD []
    let start := { s with
      files
      directory
      streams := [.source source, .journal 1, .journal 2]
      descriptors := (if input.isOk then [(0, 0)] else []) ++ [(1, 1), (2, 2)]
      journal := [] }
    let after : State := runProgram fuel l environment start
    return { status := after.exitStatus, written := after.journal.reverse,
             consumed := source.length - after.unread 0, files := after.files }

/-- Runs a program instead of the shell. -/
def runInstead : (fuel : Nat) → List String → State → State
  | 0, _, s => s
  | fuel + 1, args, s =>
    match Builtin.readOptions [] [] 2 args with
    | .error e => s.fail e
    | .ok (_, []) => s.finish 0
    | .ok (_, name :: args) =>
      match s.program name args with
      | .error e =>
        let s := s.refuse name e
        { s with flow := .ended (.code s.status) }
      | .ok (_, launch) => { runProgram fuel launch s.environment s with traps := [] }

def runText : (fuel : Nat) → (isTested shows : Bool) → String → State → State
  | 0, _, _, _, s => s
  | fuel + 1, isTested, shows, text, s =>
    let cs := text.toList
    runLines (run fuel isTested) shows (steps cs) false { rest := cs } s

/-- Runs a file in the shell itself. -/
def runFile : (fuel : Nat) → List String → State → State
  | 0, _, s => s
  | fuel + 1, args, s =>
    match args with
    | [] => s.finish 0
    | name :: _ =>
      let found : Except String (String × List UInt8) :=
        if '/' ∈ name.toList then
          match s.contents name with
          | .ok contents => .ok (name, contents)
          | .error .isDirectory => .ok (name, [])
          | .error e => .error (Connection.complaint ⟨0, .read, name⟩ e)
        else
          let found := (s.searchPath.splitOn ":").findSome? fun d =>
            let path := if d.isEmpty then name else d ++ "/" ++ name
            (s.contents path).toOption.map fun contents => (path, contents)
          found.elim (.error (name ++ ": not found")) .ok
      match found with
      | .error e => s.fail e
      | .ok (path, contents) =>
        let after :=
          runText fuel false true (Text.Octets.ofBytes contents) { s with caller := some path }
        { after with flow := if after.flow = .returning then .going else after.flow }

/-- Deals with the signals that have come. -/
def deliver : (fuel : Nat) → State → State
  | 0, s => s
  | fuel + 1, s =>
    if s.isPart then s
    else
      match s.signals with
      | [] => s
      | n :: signals =>
        let s := { s with signals }
        match s.traps.lookup n with
        | some action =>
          if action.isEmpty then deliver fuel s
          else
            let after := runText fuel false false action { s with flow := .going }
            match after.flow with
            | .going => deliver fuel { after with status := s.status, flow := s.flow }
            | _ => after
        | none =>
          if Builtin.isFatal n then { s with signals := [], flow := .ended (.signal n) }
          else deliver fuel s

/-- Runs what a shell has to do at its end. -/
def finishShell : (fuel : Nat) → State → State
  | 0, s => s
  | fuel + 1, s =>
    match s.flow, s.traps.lookup 0 with
    | .ended (.signal _), _ | _, none => s
    | _, some action =>
      let status := State.statusNumber s.exitStatus
      let after := runText fuel false false action
        { s with traps := s.traps.filter (·.1 ≠ 0), flow := .going, status }
      match after.flow with
      | .ended _ => after
      | _ => { after with flow := .ended (.code status) }

/-- Runs a shell with some arguments. With the option `c` the first word is the script, and the ones
after it are the name of the shell and the parameters; without, the first word names a file with the
script, and without any the script is the input. -/
def runShell : (fuel : Nat) → List String → State → State
  | 0, _, s => s
  | fuel + 1, args, s =>
    let letters (arg : String) : List Char := arg.toList.drop 1
    let isOption (arg : String) : Bool :=
      (arg.startsWith "-" || arg.startsWith "+") && arg.length > 1 && arg ≠ "--"
    let options := args.takeWhile isOption
    let hasScript := options.any fun arg => arg.startsWith "-" && 'c' ∈ letters arg
    let reading := options.map fun arg => String.ofList (arg.toList.filter (· ≠ 'c'))
    let size := Number.total (args.map String.length) + args.length
    let rest := args.drop options.length
    let rest := if rest.head? = some "--" || rest.head? = some "-" then rest.tail else rest
    let withValue := (options.filter fun arg => 'o' ∈ letters arg).length
    let s := Builtin.set (size + 1) ((reading.filter (·.length > 1)) ++ rest.take withValue)
      { s with caller := none }
    let rest := rest.drop withValue
    let s := { s with args := [] }
    let after :=
      if !s.isGoing then s
      else if hasScript then
        match rest with
        | [] => s.fail "-c requires an argument"
        | script :: rest =>
          runText fuel false false script { s with name := (rest.head?).getD s.name, args := rest.tail }
      else if rest.isEmpty || s.has 's' then
        let script := (s.readable 0).toOption.getD []
        let s := { Builtin.setOption true 's' s with args := rest }
        runText fuel false true (Text.Octets.ofBytes script) (s.consume 0 script.length)
      else
        match rest with
        | [] => s
        | name :: rest =>
          match s.contents name with
          | .ok script =>
            runText fuel false true (Text.Octets.ofBytes script) { s with name, args := rest }
          | .error .isDirectory => s
          | .error e => s.fail (Connection.complaint ⟨0, .read, name⟩ e)
    finishShell fuel after

end

end Gutter.Shell
