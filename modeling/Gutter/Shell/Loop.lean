import Gutter.Shell.State

/-!
# Loops

How a loop goes on when commands inside it leave it or start its next turn.
-/

namespace Gutter.Shell

def loopLimit : Nat := 10000000

/-- How a loop goes on. -/
inductive Turn where
  | on
  | next
  | out
  deriving DecidableEq

def turn (s : State) : Turn × State :=
  match s.flow with
  | .going => (.on, s)
  | .breaking n => (.out, { s with flow := if n ≤ 1 then .going else .breaking (n - 1) })
  | .continuing n =>
    if n ≤ 1 then (.next, { s with flow := .going })
    else (.out, { s with flow := .continuing (n - 1) })
  | _ => (.out, s)

/-- The state after a loop; `last` is the status of its last turn. -/
def afterLoop (last : Nat) (s : State) : State :=
  match s.flow with
  | .going | .breaking _ | .continuing _ => { s with status := last, loops := s.loops - 1 }
  | _ => { s with loops := s.loops - 1 }

/-- Runs a body as long as a condition succeeds, or fails. -/
def repeatWhile (whileTrue : Bool) (condition body : State → State) :
    (limit : Nat) → (last : Nat) → State → State
  | 0, last, s => afterLoop last s
  | limit + 1, last, s =>
    match turn (condition s) with
    | (.out, s) => afterLoop last s
    | (.next, s) => repeatWhile whileTrue condition body limit last s
    | (.on, s) =>
      if (s.status = 0) = whileTrue then
        match turn (body s) with
        | (.out, s) => afterLoop s.status s
        | (_, s) => repeatWhile whileTrue condition body limit s.status s
      else afterLoop last s

def repeatEach (name : String) (body : State → State) : List String → (last : Nat) → State → State
  | [], last, s => afterLoop last s
  | value :: values, last, s =>
    let s := s.assign name value
    if !s.isGoing then afterLoop last s
    else
      match turn (body s) with
      | (.out, s) => afterLoop s.status s
      | (_, s) => repeatEach name body values s.status s

end Gutter.Shell
