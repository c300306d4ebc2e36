import Gutter.Linter.Report
import Gutter.Log.Event
import Gutter.Machine
import Gutter.Text.Blank

/-!
# Calling a linter program

A linter program gets the text as its input and reports on its output. What it says elsewhere, and
how it ends, counts only if it reports nothing.
-/

namespace Gutter

namespace Command

/-- What a program reports that has ended. A bad end counts only if the output is blank. -/
def judge (f : Finished) : Except Failure (List Record) :=
  if !f.status.isSuccess && Report.isBlank f.output then
    .error (.exit f.status (Text.trim (Text.Utf8.decodeLossy f.errors)))
  else (Report.ofBytes f.output).mapError .undecodable

/-- What came of a call: the result, and what is noted when it starts and when it ends. -/
structure Reply where
  result : Except Failure (List Record)
  onStart : List Log.Event
  onEnd : List Log.Event

/-- Calls the linter on a machine. -/
def call (c : Command) (m : Machine) (r : Request) : Reply :=
  let args := c.expandArgs r.kind r.locale
  let onStart : List Log.Event := [.spawn c.program args r.kind r.text.utf8ByteSize]
  match m.start c args (Text.Utf8.encode r.text) with
  | .error cause => ⟨.error (.spawn c.program cause), onStart, []⟩
  | .ok child =>
    match child.collect with
    | .error cause => ⟨.error (.io cause), onStart, []⟩
    | .ok f => ⟨judge f, onStart, [.exit f.status f.output.length]⟩

end Command

end Gutter
