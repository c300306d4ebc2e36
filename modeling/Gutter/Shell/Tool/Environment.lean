import Gutter.Shell.Tool

/-!
# Starting programs with other variables

The program that starts another one with variables of its own, and the written form in which one
argument holds several.
-/

namespace Gutter.Shell.Tool

namespace Environment

/-- The variables with one that is set: in the place of the old one, or at the end. -/
def put (name value : String) (environment : List (String × String)) : List (String × String) :=
  if environment.any (·.1 = name) then
    environment.map fun x => if x.1 = name then (name, value) else x
  else environment ++ [(name, value)]

def assignment? (word : String) : Option (String × String) :=
  let cs := word.toList
  let name := cs.takeWhile (· ≠ '=')
  if name.length = cs.length then none
  else some (String.ofList name, String.ofList (cs.drop (name.length + 1)))

/-! ## Several arguments in one -/

/-- What stands around a place in a text of several arguments. -/
inductive Quote where
  | outside
  | single
  | double
  deriving DecidableEq, Repr

/-- How far a text of several arguments is read. -/
structure Split where
  done : List String := []
  open? : Option (List Char) := none

namespace Split

def add (cs : List Char) (s : Split) : Split :=
  { s with open? := some (cs.reverse ++ s.open?.getD []) }

def close (s : Split) : Split :=
  match s.open? with
  | none => s
  | some cs => { done := String.ofList cs.reverse :: s.done }

def all (s : Split) : List String := s.close.done.reverse

end Split

def isBlank (c : Char) : Bool := c ∈ [' ', '\t', '\n', '\x0B', '\x0C', '\r']

def braced? (cs : List Char) : Option (String × List Char) :=
  match cs with
  | '{' :: cs =>
    let name := cs.takeWhile fun c => c.isAlphanum || c = '_'
    match name, cs.drop name.length with
    | c :: _, '}' :: rest => if c.isDigit then none else some (String.ofList name, rest)
    | _, _ => none
  | _ => none

/-- The arguments in a text. -/
def split (environment : List (String × String)) :
    (fuel : Nat) → Quote → List Char → Split → Except String Split
  | 0, _, _, s => .ok s
  | fuel + 1, quote, cs, s =>
    let next (quote : Quote) (cs : List Char) (s : Split) := split environment fuel quote cs s
    match cs with
    | [] => if quote = .outside then .ok s else .error "no terminating quote in -S string"
    | c :: cs =>
      if c = '\'' && quote ≠ .double then
        next (if quote = .single then .outside else .single) cs (s.add [])
      else if c = '"' && quote ≠ .single then
        next (if quote = .double then .outside else .double) cs (s.add [])
      else if isBlank c && quote = .outside then next quote cs s.close
      else if c = '#' && s.open?.isNone && quote = .outside then .ok s
      else if c = '\\' && (quote ≠ .single || cs.head? ∈ [some '\\', some '\'']) then
        match cs with
        | [] => .error "invalid backslash at end of string in -S"
        | c :: cs =>
          let named := [('f', '\x0C'), ('n', '\n'), ('r', '\r'), ('t', '\t'), ('v', '\x0B')]
          if c ∈ ['"', '#', '$', '\'', '\\'] then next quote cs (s.add [c])
          else if c = '_' then
            if quote = .double then next quote cs (s.add [' ']) else next quote cs s.close
          else if c = 'c' then
            if quote = .double then .error "'\\c' must not appear in double-quoted -S string"
            else .ok s
          else
            match named.lookup c with
            | some byte => next quote cs (s.add [byte])
            | none => .error ("invalid sequence '\\" ++ c.toString ++ "' in -S")
      else if c = '$' && quote ≠ .single then
        match braced? cs with
        | none =>
          .error ("only $\x7bVARNAME\x7d expansion is supported, error at: $" ++ String.ofList cs)
        | some (name, cs) =>
          match environment.lookup name with
          | some value => next quote cs (s.add value.toList)
          | none => next quote cs s
      else next quote cs (s.add [c])

/-! ## Arguments -/

def table : OptionTable where
  letters := "C:iS:u:v0"
  names := [("ignore-environment", .nothing, "i"), ("null", .nothing, "0"),
    ("unset", .value, "u"), ("chdir", .value, "C"), ("default-signal", .perhaps, "signals"),
    ("ignore-signal", .perhaps, "signals"), ("block-signal", .perhaps, "signals"),
    ("list-signal-handling", .nothing, "signals"), ("debug", .nothing, "v"),
    ("split-string", .value, "S")]
  endsAtWord := true
  usage := "[OPTION]... [-] [NAME=VALUE]... [COMMAND [ARG]...]"

/-- The text of several arguments in the first of some arguments, with what stands in front of it; the
text may be the argument behind. -/
def splitAt? (arg : String) (next? : Option String) : Option (List String × String × Bool) :=
  match arg.toList with
  | '-' :: '-' :: cs =>
    let name := cs.takeWhile (· ≠ '=')
    if name.isEmpty || !"split-string".startsWith (String.ofList name) then none
    else if name.length < cs.length then
      some ([], String.ofList (cs.drop (name.length + 1)), false)
    else next?.map fun next => ([], next, true)
  | '-' :: cs =>
    let front := cs.takeWhile (· ∈ ['i', 'v', '0'])
    let before := if front.isEmpty then [] else [String.ofList ('-' :: front)]
    match cs.drop front.length with
    | ['S'] => next?.map fun next => (before, next, true)
    | 'S' :: text => some (before, String.ofList text, false)
    | _ => none
  | _ => none

def takesNext (arg : String) : Bool :=
  match arg.toList with
  | '-' :: '-' :: _ => arg ∈ ["--unset", "--chdir"]
  | '-' :: cs => [['u'], ['C']].contains (cs.dropWhile (· ∈ ['i', 'v', '0']))
  | _ => false

/-- The arguments with those in place that stand together in one of them. -/
def spread (environment : List (String × String)) :
    (fuel : Nat) → List String → Except String (List String)
  | 0, args => .ok args
  | _, [] => .ok []
  | fuel + 1, arg :: args =>
    match splitAt? arg args.head? with
    | some (before, text, usesNext) => do
      let s ← split environment (text.length + 1) .outside text.toList {}
      let more ← spread environment fuel (s.all ++ if usesNext then args.tail else args)
      return before ++ more
    | none =>
      if takesNext arg then do
        match args with
        | [] => return [arg]
        | value :: args => return arg :: value :: (← spread environment fuel args)
      else if arg.startsWith "-" && arg ≠ "-" && arg ≠ "--" then do
        return arg :: (← spread environment fuel args)
      else .ok (arg :: args)

end Environment

/-- Starts a program with other variables, or prints the variables. -/
def env : Tool := fun s =>
  match Environment.spread s.environment (s.args.length + 100) s.args with
  | .error e => s.fail 125 e
  | .ok args =>
    let supply := { s with args }
    supply.withOptions Environment.table 125 fun o =>
      let dash : Bool := o.words.head? = some "-"
      let words := if dash then o.words.tail else o.words
      let isBare := o.has "i" || dash
      let unset := (o.given.filter (·.1 = "u")).map Prod.snd
      let assigned := words.takeWhile (fun word => '=' ∈ word.toList)
      let command := words.drop assigned.length
      match if isBare then none else unset.find? fun name => name.isEmpty || '=' ∈ name.toList with
      | some name => s.fail 125 ("cannot unset " ++ Quoting.word name ++ ": Invalid argument")
      | none =>
        let start := if isBare then [] else s.environment.filter fun x => x.1 ∉ unset
        let environment := (assigned.filterMap Environment.assignment?).foldl
          (fun environment (name, value) => Environment.put name value environment) start
        let remarks := (if isBare then ["cleaning environ"] else unset.map ("unset:    " ++ ·)) ++
          assigned.map ("setenv:   " ++ ·)
        let tell (lines : List String) (e : Ending) : Ending :=
          let text := String.join (lines.map (· ++ "\n"))
          if o.has "v" then
            { e with written := (2, Text.Octets.toBytes text) :: e.written }
          else e
        match command with
        | [] =>
          if o.has "C" then
            tell remarks (s.misuse 125 "must specify command with --chdir (-C)")
          else
            let ending := if o.has "0" then "\x00" else "\n"
            tell remarks
              (s.print (String.join (environment.map fun x => x.1 ++ "=" ++ x.2 ++ ending)))
        | program :: arguments =>
          if o.has "0" then tell remarks (s.misuse 125 "cannot specify --null (-0) with command")
          else
            let there : Except FileError Location :=
              match o.value? "C" with
              | none => .ok s.directory
              | some path =>
                match s.files.lookup s.directory (pathOf path) with
                | .ok (l, .directory) => .ok l
                | .ok _ => .error .notDirectory
                | .error e => .error e
            let remarks := remarks ++ (o.value? "C").toList.map
              fun path => "chdir:    " ++ Quoting.name path
            match there with
            | .error e =>
              let path := Quoting.name ((o.value? "C").getD "")
              tell remarks (s.fail 125 ("cannot change directory to " ++ path ++ ": " ++ e.reason))
            | .ok directory =>
              let shown := (program :: arguments).zipIdx.map fun (arg, i) =>
                "   arg[" ++ toString i ++ "]= " ++ Quoting.word arg
              let remarks := remarks ++ ("executing: " ++ program) :: shown
              let errand : Errand :=
                { words := program :: arguments
                  environment
                  input := s.input
                  files := s.files
                  directory }
              match s.launch errand with
              | .ok e => tell remarks e
              | .error e =>
                let hasBlank := program.toList.any Environment.isBlank
                let hint := "use -[v]S to pass options in shebang lines"
                let complaint := s.complaint (Quoting.word program ++ ": " ++ e.reason) ++
                  if e = .notFound && hasBlank then s.complaint hint else []
                tell remarks
                  { s.finish (if e = .notFound then 127 else 126) with written := [(2, complaint)] }

end Gutter.Shell.Tool
