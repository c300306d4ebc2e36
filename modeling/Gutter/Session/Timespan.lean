/-!
# Spans of time as text

A span below one second is written in whole milliseconds, any other in seconds with as few places
as needed.
-/

namespace Gutter.Timespan

def places (ms : Nat) : List Char :=
  let ds := Nat.toDigits 10 ms
  let padded := List.replicate (3 - ds.length) '0' ++ ds
  (padded.reverse.dropWhile (· = '0')).reverse

/-- The text of a number of milliseconds. -/
def text (ms : Nat) : String :=
  if ms = 0 then "0ns"
  else if ms < 1000 then toString ms ++ "ms"
  else
    let rest := places (ms % 1000)
    toString (ms / 1000) ++ (if rest.isEmpty then "" else "." ++ String.ofList rest) ++ "s"

end Gutter.Timespan
