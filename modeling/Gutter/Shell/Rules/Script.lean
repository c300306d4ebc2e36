import Gutter.Shell.Regex

/-!
# Scripts of rules

A script says what is done with each record of a text: rules, each with a condition and actions.
-/

namespace Gutter.Shell.Rules

/-- What is worked out of two numbers. -/
inductive Operation where
  | plus
  | minus
  | times
  | divide
  | remainder
  | power
  deriving DecidableEq, Repr

/-- How two values are compared. -/
inductive Comparison where
  | less
  | lessEqual
  | equal
  | unequal
  | greaterEqual
  | greater
  deriving DecidableEq, Repr

/-- The functions that are always there and get only values. -/
inductive Function where
  | index
  | substr
  | sin
  | cos
  | atan2
  | exp
  | log
  | sqrt
  | int
  | rand
  | srand
  | close
  | system
  | toUpper
  | toLower
  | flush
  | format
  | time
  | timeText
  | timeOf
  deriving DecidableEq, Repr

namespace Function

def table : List (String × Function × Nat × Nat) :=
  [("index", index, 2, 2), ("substr", substr, 2, 3), ("sin", sin, 1, 1), ("cos", cos, 1, 1),
    ("atan2", atan2, 2, 2), ("exp", exp, 1, 1), ("log", log, 1, 1), ("sqrt", sqrt, 1, 1),
    ("int", int, 1, 1), ("rand", rand, 0, 0), ("srand", srand, 0, 1), ("close", close, 1, 1),
    ("system", system, 1, 1), ("toupper", toUpper, 1, 1), ("tolower", toLower, 1, 1),
    ("fflush", flush, 0, 1), ("sprintf", format, 1, 255), ("systime", time, 0, 0),
    ("strftime", timeText, 0, 3), ("mktime", timeOf, 1, 1)]

end Function

mutual

/-- Something that has a value and can get another one. -/
inductive Place where
  | variable (name : String)
  | element (array : String) (keys : List Expr)
  | field (number : Expr)

/-- An expression. -/
inductive Expr where
  | number (x : Float)
  | text (s : String)
  | regex (r : Regex)
  | place (p : Place)
  | assign (p : Place) (o : Option Operation) (value : Expr)
  | step (p : Place) (goesUp isNew : Bool)
  | operate (o : Operation) (a b : Expr)
  | compare (c : Comparison) (a b : Expr)
  | join (a b : Expr)
  | isMatch (isNegated : Bool) (a pattern : Expr)
  | both (a b : Expr)
  | either (a b : Expr)
  | opposite (a : Expr)
  | negative (a : Expr)
  | positive (a : Expr)
  | choice (condition a b : Expr)
  | hasKey (keys : List Expr) (array : String)
  | call (name : String) (args : List Expr)
  | apply (f : Function) (args : List Expr)
  | length (a : Option Expr)
  | lengthOf (name : String)
  | split (a : Expr) (array : String) (separator : Option Expr)
  | find (a pattern : Expr)
  | replace (isGlobal : Bool) (pattern new : Expr) (target : Option Place)
  | read (target : Option Place)
  | readFile (target : Option Place) (name : Expr)
  | readCommand (target : Option Place) (command : Expr)

end

instance : Inhabited Expr := ⟨.text ""⟩

instance : Inhabited Place := ⟨.variable ""⟩

/-- Where output goes. -/
inductive Direction where
  | file
  | append
  | command
  deriving DecidableEq, Repr

/-- An action. -/
inductive Action where
  | nothing
  | evaluate (e : Expr)
  | print (isFormat : Bool) (args : List Expr) (target : Option (Direction × Expr))
  | block (actions : List Action)
  | conditional (condition : Expr) (a b : Action)
  | loop (condition : Expr) (body : Action)
  | loopAfter (body : Action) (condition : Expr)
  | count (start condition : Option Expr) (step : Option Expr) (body : Action)
  | each (name array : String) (body : Action)
  | next
  | nextFile
  | exit (status : Option Expr)
  | give (value : Option Expr)
  | leave
  | again
  | erase (array : String) (keys : List Expr)
  | clear (array : String)

instance : Inhabited Action := ⟨.nothing⟩

/-- For which records a rule is. -/
inductive Condition where
  | atStart
  | atEnd
  | always
  | when (e : Expr)
  | range (start stop : Expr)

/-- A condition and the actions under it; without actions the record is printed. -/
structure Rule where
  condition : Condition
  actions? : Option (List Action)

structure Definition where
  parameters : List String
  body : List Action

structure Script where
  rules : List Rule := []
  definitions : List (String × Definition) := []

end Gutter.Shell.Rules
