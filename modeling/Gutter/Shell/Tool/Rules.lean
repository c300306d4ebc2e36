import Gutter.Shell.Rules.Reader
import Gutter.Shell.Rules.Run

/-!
# Programs for scripts of rules

How a script of rules and its variables are given on the command line.
-/

namespace Gutter.Shell.Tool

namespace RuleOptions

def help : String :=
  "Usage: mawk [Options] [Program] [file ...]

Program:
    The -f option value is the name of a file containing program text.
    If no -f option is given, a \"--\" ends option processing; the following
    parameters are the program text.

Options:
    -f program-file  Program  text is read from file instead of from the
                     command-line.  Multiple -f options are accepted.
    -F value         sets the field separator, FS, to value.
    -v var=value     assigns value to program variable var.
    --               unambiguous end of options.

    Implementation-specific options are prefixed with \"-W\".  They can be
    abbreviated:

    -W version       show version information and exit.
    -W compat        pre-POSIX 2001.
    -W dump          show assembler-like listing of program and exit.
    -W help          show this message and exit.
    -W interactive   set unbuffered output, line-buffered input.
    -W exec file     use file as program as well as last option.
    -W posix         stricter POSIX checking.
    -W random=number set initial random seed.
    -W sprintf=number adjust size of sprintf buffer.
    -W usage         show this message and exit.
"

def version : String :=
  "mawk 1.3.4 20240123

random-funcs:       arc4random_stir/arc4random
regex-funcs:        internal

compiled limits:
sprintf buffer      8192
maximum-integer     9223372036854775808
"

def names : List (String × Bool) :=
  [("version", false), ("compat", false), ("dump", false), ("exec", true), ("help", false),
    ("interactive", false), ("lint", false), ("posix", false), ("random", true),
    ("re-interval", false), ("sprintf", true), ("traditional", false), ("usage", false)]

end RuleOptions

/-- How a script of rules is given. -/
structure RuleOptions where
  assigned : List (String × String) := []
  scripts : List String := []
  words : List String := []
  warnings : List String := []

/-- Why no script is run. -/
inductive RuleOptions.Stop where
  | wrong (text : String)
  | help
  | version
  | nothing

namespace RuleOptions

def plain (text : String) : String :=
  String.ofList (Rules.Scanner.unescape (text.length + 1) text.toList)

def assign (name value : String) (o : RuleOptions) : RuleOptions :=
  { o with assigned := (name, plain value) :: o.assigned }

def rest (hasScript : Bool) (words : List String) : Except Stop RuleOptions :=
  if hasScript || !words.isEmpty then .ok { words } else .error .nothing

/-- What a long option asks for; nothing if it changes nothing, or there is none of the name. -/
def long (text : String) : Except Stop (Option String) :=
  let name := String.ofList (text.toList.takeWhile (· ≠ '='))
  let found := if name.isEmpty then [] else names.filter fun x => x.1.startsWith name
  match found with
  | [] => .ok none
  | (full, _) :: _ =>
    match full with
    | "version" => .error .version
    | "help" | "usage" => .error .help
    | "dump" => .error .nothing
    | _ => .ok (some full)

/-- What an option with a value changes, and the option that takes the next argument after it. -/
def take (c : Char) (value : String) :
    Except Stop ((RuleOptions → RuleOptions) × Option Char) := do
  match c with
  | 'F' => return (assign "FS" value, none)
  | 'f' => return (fun o => { o with scripts := value :: o.scripts }, none)
  | 'v' =>
    match Rules.Run.assignment? value with
    | some (name, value) => return (assign name value, none)
    | none => throw (.wrong ("improper assignment: -v " ++ value))
  | 'W' =>
    match ← long value with
    | some "exec" => return (id, some 'e')
    | some _ => return (id, none)
    | none =>
      let warning := "vacuous option: -W \"" ++ value ++ "\""
      return (fun o => { o with warnings := warning :: o.warnings }, none)
  | _ => throw (.wrong ("not an option: -" ++ c.toString))

/-- Reads the arguments. `hasScript` tells whether a file that holds the script has been named, and
`waiting` is an option that takes the next argument. -/
def read : (hasScript : Bool) → (waiting : Option Char) → List String → Except Stop RuleOptions
  | hasScript, none, [] => rest hasScript []
  | _, some c, [] =>
    .error (.wrong (if c ∈ ['W', 'F', 'v', 'f'] then "option -" ++ c.toString ++ " lacks argument"
      else "not an option: -" ++ c.toString))
  | _, some 'e', file :: args => .ok { scripts := [file], words := args }
  | hasScript, some c, value :: args => do
    let (change, waiting) ← take c value
    return change (← read (hasScript || c = 'f') waiting args)
  | hasScript, none, arg :: args =>
    match arg.toList with
    | ['-'] => if hasScript then .ok { words := arg :: args } else .error .nothing
    | ['-', '-'] => rest hasScript args
    | '-' :: '-' :: name => do
      match ← long (String.ofList name) with
      | none => throw (.wrong ("not an option: " ++ arg))
      | some full => read hasScript (if full = "exec" then some 'e' else none) args
    | ['-', c] => read hasScript (some c) args
    | '-' :: c :: value => do
      if c ∉ ['W', 'F', 'v', 'f'] then throw (.wrong ("not an option: " ++ arg))
      let (change, waiting) ← take c (String.ofList value)
      return change (← read (hasScript || c = 'f') waiting args)
    | _ => rest hasScript (arg :: args)

end RuleOptions

/-- The text of the files that hold a script. The input is left as it is unless it is one of them. -/
def scriptText (names : List String) (s : Supply) : Except String (String × Bool) := do
  let texts ← (s.sources names).mapM fun x =>
    match x.contents with
    | .ok bs => .ok (Text.Octets.ofBytes bs)
    | .error .isDirectory => .error ("read error (" ++ FileError.isDirectory.reason ++ ")")
    | .error e => .error ("cannot open \"" ++ x.name ++ "\" (" ++ e.reason ++ ")")
  return ("\n".intercalate texts, (s.sources names).any (·.isInput))

/-- Runs a script of rules on files. -/
def awk : Tool := fun s =>
  let name := (s.name.splitOn "/").getLast?.getD s.name
  let s : Supply := { s with name }
  let complaints (lines : List String) : List (Nat × List UInt8) :=
    lines.map fun line => (2, s.complaint line)
  match RuleOptions.read false none s.args with
  | .error .help => s.print RuleOptions.help
  | .error .version => s.print RuleOptions.version
  | .error (.wrong text) => s.fail 2 text
  | .error .nothing =>
    if s.args.isEmpty then
      { s.finish 0 with written := [(2, Text.Octets.toBytes RuleOptions.help)] }
    else s.finish 0
  | .ok o =>
    let script : Except (List String) (Option String × String × List String × Bool) :=
      match o.scripts, o.words with
      | [], program :: words => .ok (none, program ++ "\n", words, false)
      | files, words =>
        match scriptText files s with
        | .ok (text, usesInput) => .ok (files.getLast?, text, words, usesInput)
        | .error text => .error [text]
    let ending : Ending :=
      match script with
      | .error lines => { s.finish 2 with written := complaints lines }
      | .ok (file?, text, words, usesInput) =>
        match Rules.Script.ofText file? text with
        | .error lines => { s.finish 2 with written := complaints lines }
        | .ok script =>
          let s := if usesInput then { s with input := .ok [] } else s
          script.execute s o.assigned words
    { ending with written := complaints o.warnings ++ ending.written }

end Gutter.Shell.Tool
