import Gutter.Linter.Call
import Gutter.Log.Filter
import Gutter.Settings.Toml
import Gutter.Terminal.Arguments
import Gutter.Terminal.Check

/-!
# The program

What the program prints, and how it ends, as a function of its arguments and the machine.
-/

namespace Gutter

/-- Why a check did not take place. -/
inductive Problem where
  | unreadable (file : Path) (cause : String)
  | unparsable (file : Path)
  | noLinter
  deriving DecidableEq, Repr

namespace Problem

def message : Problem → String
  | .unreadable file _ => "reading " ++ file.display
  | .unparsable file => "parsing " ++ file.display
  | .noLinter => "no linter given: pass --linter or set `command` in the settings file"

def cause? : Problem → Option String
  | .unreadable _ cause => some cause
  | _ => none

def lines (p : Problem) : List String :=
  ("Error: " ++ p.message) ::
    match p.cause? with
    | some cause => ["", "Caused by:", "    " ++ cause]
    | none => []

end Problem

namespace Settings

/-- The settings in a file; without a file, the default ones. -/
def load (m : Machine) : Option Path → Except Problem Settings
  | none => .ok .default
  | some file =>
    match m.readText file with
    | .error cause => .error (.unreadable file cause)
    | .ok text =>
      match ofToml? text with
      | some settings => .ok settings
      | none => .error (.unparsable file)

end Settings

namespace Arguments

/-- The linter to call: the one of the command line, or else the one of the settings. -/
def command (a : Arguments) (settings : Settings) : Except Problem Command :=
  match a.linter, settings.command with
  | some program, _ => .ok { Command.ofProgram program with args := a.linterArgs }
  | none, some c => .ok c
  | none, none => .error .noLinter

end Arguments

def Command.answers (c : Command) (m : Machine) : Answers where
  order := id
  result := fun run => (c.call m run.request).result
  onStart := fun run => (c.call m run.request).onStart
  onEnd := fun run => (c.call m run.request).onEnd

namespace Check

/-- Reads documents until one cannot be read, and notes those that the linter does not handle. -/
def readAll (extensions : Extensions) (m : Machine) :
    List Path → List Log.Event × Except Problem (List (Path × String))
  | [] => ([], .ok [])
  | file :: rest =>
    let notes : List Log.Event := if extensions.supports file then [] else [.checkUnsupported file]
    match m.readText file with
    | .error cause => (notes, .error (.unreadable file cause))
    | .ok text =>
      let (more, documents) := readAll extensions m rest
      (notes ++ more, documents.map ((file, text) :: ·))

/-- What a check has led to, with the exit code if it took place. -/
structure Report where
  printed : String
  ending : Except Problem Nat
  log : List Log.Event

def Report.ofProblem (log : List Log.Event) (p : Problem) : Report := ⟨"", .error p, log⟩

/-- Does what the arguments ask for. -/
def perform (m : Machine) (a : Arguments) : Report :=
  let plan : Except Problem (Settings × Command) := do
    let settings ← Settings.load m a.config
    return (settings, ← a.command settings)
  match plan with
  | .error p => .ofProblem [] p
  | .ok (settings, command) =>
    let (notes, documents) := readAll (.ofSettings settings) m a.files
    let notes := .checkStart command.program :: notes
    match documents with
    | .error p => .ofProblem notes p
    | .ok documents =>
      let verdict := run settings documents a.cursor (command.answers m) notes
      ⟨String.join verdict.blocks, .ok verdict.exitCode, verdict.session.journal.log⟩

end Check

/-- What a run of the program leaves behind. -/
structure Transcript where
  exitCode : Nat
  output : String
  errors : List String

namespace Transcript

def version : String := "gutterlint 0.1.0\n"

def ofRefusal (r : Arguments.Refusal) : Transcript where
  exitCode := if r.isWanted then 0 else 2
  output := if r = .version then version else ""
  errors := []

def linesOf (text : String) : List String :=
  (text.splitOn "\n").map fun line =>
    if line.endsWith "\r" then (line.dropEnd 1).toString else line

/-- How the program ends after a check. The events that the filter admits are written, then what
went wrong. -/
def ofReport (filter : Log.Filter) (r : Check.Report) : Transcript where
  exitCode := match r.ending with
    | .ok code => code
    | .error _ => 1
  output := r.printed
  errors := ((r.log.filter filter.admits).map Log.Event.line).flatMap linesOf ++
    match r.ending with
    | .ok _ => []
    | .error p => p.lines

def ofWords (m : Machine) (words : List String) (filter : Option String) : Transcript :=
  match Arguments.ofWords words with
  | .error r => ofRefusal r
  | .ok a => ofReport (Log.Filter.choose a.verbose filter) (Check.perform m a)

end Transcript

end Gutter
