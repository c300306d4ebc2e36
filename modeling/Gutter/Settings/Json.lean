import Gutter.Settings
import Gutter.Json.Printer
import Gutter.Json.Shape

/-!
# Settings as JSON

Settings are read on top of the defaults: a key that is absent leaves its default, and a key that no
setting has is passed over.
-/

namespace Gutter

open Json

namespace Command

/-- A command is written as an object, its variables sorted by name. Only a directory whose path is
UTF-8 has a form in JSON; of any other one the path is written as it is displayed. -/
def toJson (c : Command) : Value :=
  .object [("program", .string c.program), ("args", .texts c.args),
    ("env", .object (c.env.pairs.map fun x => (x.1, .string x.2))),
    ("cwd", .optional (c.cwd.map fun p => .string p.display))]

/-- How a command is described; only the program must be there. -/
def shape : Shape Command where
  title := "struct CommandSpec"
  initial := .ofProgram ""
  fields := [
    .of "program" .refused .text fun x c => { c with program := x },
    .of "args" .default (.list .text) fun x c => { c with args := x },
    .of "env" .default (.members .text) fun x c => { c with env := .ofList x },
    .of "cwd" .default (.optional (.textAs "path string")) fun x c =>
      { c with cwd := x.map Path.ofString }]

def ofJson (bytes : List UInt8) : Except Error Command := read shape.reader bytes

end Command

namespace Settings

/-- Settings are written as an object with every key. -/
def toJson (s : Settings) : Value :=
  .object [("locale", .string s.locale.code), ("severityLevel", .natural s.severityLevel.toNat),
    ("jsLikeExt", .texts s.jsLikeExt), ("cssLikeExt", .texts s.cssLikeExt),
    ("htmlLikeExt", .texts s.htmlLikeExt), ("errorColor", .string s.errorColor),
    ("warningColor", .string s.warningColor), ("debounceMs", .natural s.debounceMs.toNat),
    ("evictionSlack", .natural s.evictionSlack.toNat),
    ("command", .optional (s.command.map Command.toJson))]

/-- How settings are described; every field has a default. -/
def shape : Shape Settings where
  title := "struct LintConfig"
  initial := .default
  fields := [
    .of "locale" .default .text fun x s => { s with locale := .ofCode x },
    { Field.of "severityLevel" .default .byte fun x (s : Settings) => { s with severityLevel := x }
      with alias? := some "level" },
    .of "jsLikeExt" .default (.list .text) fun x s => { s with jsLikeExt := x },
    .of "cssLikeExt" .default (.list .text) fun x s => { s with cssLikeExt := x },
    .of "htmlLikeExt" .default (.list .text) fun x s => { s with htmlLikeExt := x },
    .of "errorColor" .default .text fun x s => { s with errorColor := x },
    .of "warningColor" .default .text fun x s => { s with warningColor := x },
    .of "debounceMs" .default (.word64 "u64") fun x s => { s with debounceMs := x },
    .of "evictionSlack" .default (.word64 "usize") fun x s => { s with evictionSlack := x },
    .of "command" .default (.optional Command.shape.reader) fun x s => { s with command := x }]

def ofJson (bytes : List UInt8) : Except Error Settings := read shape.reader bytes

end Settings

end Gutter
