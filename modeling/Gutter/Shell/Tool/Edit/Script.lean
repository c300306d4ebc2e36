import Gutter.Shell.Regex

/-!
# Scripts that edit lines

What is done with each line of a text: commands, each for the lines that it selects.
-/

namespace Gutter.Shell.Tool.Edit

/-- Which lines are selected. An expression that is left out is the last one that was used. -/
inductive Address where
  | line (n : Nat)
  | step (first step : Nat)
  | last
  | matching (r : Option Regex)

/-- Where a range of lines ends. -/
inductive Limit where
  | line (n : Nat)
  | last
  | matching (r : Option Regex)
  | further (n : Nat)
  | multiple (n : Nat)

/-- The lines on which a command is run. -/
inductive Choice where
  | all
  | one (a : Address)
  | range (start : Address) (stop : Limit)

/-- How the letters behind a place in a replacement change. -/
inductive Case where
  | upper
  | lower
  | kept
  | nextUpper
  | nextLower
  deriving DecidableEq

/-- A part of what is put in place of a match. -/
inductive Part where
  | text (bytes : List UInt8)
  | group (n : Nat)
  | case (c : Case)

/-- A replacement of matches. -/
structure Substitution where
  pattern : Option Regex
  parts : List Part
  first : Nat
  isGlobal : Bool
  prints : Bool
  runs : Bool
  file : Option String

/-- A command. Jumps lead to the place of a command in the script. -/
inductive Command where
  | block (stop : Nat)
  | nothing
  | append (text : List UInt8)
  | insert (text : List UInt8)
  | change (text : List UInt8)
  | jump (target : Nat)
  | jumpIf (replaced : Bool) (target : Nat)
  | delete
  | deleteFirst
  | run (script : String)
  | showName
  | takeHeld (appends : Bool)
  | hold (appends : Bool)
  | exchange
  | list (width : Option Nat)
  | next
  | nextAppend
  | print
  | printFirst
  | quit (status : Nat) (prints : Bool)
  | readFile (name : String)
  | readLine (name : String)
  | substitute (s : Substitution)
  | write (name : String) (onlyFirst : Bool)
  | showNumber
  | translate (pairs : List (UInt8 × UInt8))
  | clear

structure Instruction where
  choice : Choice := .all
  isNegated : Bool := false
  command : Command

/-- A script. -/
structure Script where
  instructions : Array Instruction := #[]
  isQuiet : Bool := false
  files : List String := []

end Gutter.Shell.Tool.Edit
