import Gutter.Terminal.Program

/-!
# The command line

Reads the files that the arguments name, runs the program on them, and prints what it leaves
behind.
-/

namespace Gutter

/-- The files that some words name, as far as they can be read. -/
def readNamed (words : List String) : IO Files := do
  let config := match Arguments.ofWords words with
    | .ok a => a.config.toList.map Path.display
    | .error _ => []
  let mut found : List (Path × List UInt8) := []
  for word in words ++ config do
    try
      let contents ← IO.FS.readBinFile word
      found := found ++ [(.ofString word, contents.data.toList)]
    catch _ => pure ()
  return .ofList found

end Gutter

/-- The program. -/
def main (words : List String) : IO UInt32 := do
  let filter ← IO.getEnv "GUTTERLINT_LOG"
  let t := Gutter.Transcript.ofWords (← Gutter.readNamed words) words filter
  IO.print t.output
  for line in t.errors do
    IO.eprintln line
  return UInt32.ofNat t.exitCode
