/-!
# Shell scripts

What a script consists of: words, commands, and ways to combine commands. Texts are bytes, each
shown as the character with its number.
-/

namespace Gutter.Shell

/-- How a redirection uses what stands after it. -/
inductive Mode where
  | read
  | write
  | overwrite
  | append
  | readWrite
  | duplicate
  | document
  deriving DecidableEq, Repr

/-- What a parameter with a word in braces gives instead of its value, or along with it. -/
inductive Instead where
  | fallback
  | substitute
  | assign
  | complain
  deriving DecidableEq, Repr

mutual

/-- A part of a word. What is quoted stands for itself: it is not split at blanks and is no pattern
of file names. -/
inductive Piece where
  | text (s : String) (quoted : Bool)
  | quotes
  | parameter (name : String) (use : Use) (quoted : Bool)
  | output (body : Script) (quoted : Bool)
  | arithmetic (expression : List Piece) (quoted : Bool)

/-- What is made of the value of a parameter. -/
inductive Use where
  | value
  | length
  | instead (how : Instead) (nonEmpty : Bool) (word : List Piece)
  | trim (atEnd longest : Bool) (pattern : List Piece)
  | unknown

/-- A stream that is connected to something else. -/
inductive Redirection where
  | connect (stream : Nat) (mode : Mode) (target : List Piece)

/-- The words of a choice, and what is done if one of them matches. -/
inductive Branch where
  | on (patterns : List (List Piece)) (body : Script)

/-- A script. Commands know their lines. -/
inductive Script where
  | nothing
  | command (line : Nat) (assignments : List (String × List Piece)) (words : List (List Piece))
      (redirections : List Redirection)
  | sequence (first second : Script)
  | andThen (first second : Script)
  | orElse (first second : Script)
  | negation (body : Script)
  | pipe (parts : List Script)
  | background (body : Script)
  | redirected (line : Nat) (body : Script) (redirections : List Redirection)
  | subshell (line : Nat) (body : Script) (redirections : List Redirection)
  | conditional (condition consequence alternative : Script)
  | each (line : Nat) (name : String) (words : List (List Piece)) (body : Script)
  | loop (whileTrue : Bool) (condition body : Script)
  | choice (line : Nat) (subject : List Piece) (branches : List Branch)
  | definition (name : String) (body : Script)

end

instance : Inhabited Script := ⟨.nothing⟩

abbrev Word := List Piece

namespace Script

def join : Script → Script → Script
  | .nothing, b => b
  | a, .nothing => a
  | a, b => .sequence a b

end Script

/-- Why a text is no script. -/
inductive Fault where
  | openQuote
  | openBackQuote
  | openBrace
  | openArithmetic
  | unexpected (token : String) (wanted : Option String)
  | badVariable
  | badName
  deriving DecidableEq, Repr

namespace Fault

/-- The wording of a fault. -/
def message (f : Fault) : String :=
  "Syntax error: " ++
    match f with
    | .openQuote => "Unterminated quoted string"
    | .openBackQuote => "EOF in backquote substitution"
    | .openBrace => "Missing '\x7d'"
    | .openArithmetic => "Missing '))'"
    | .badVariable => "Bad for loop variable"
    | .badName => "Bad function name"
    | .unexpected token wanted => token ++ " unexpected" ++
        (match wanted with
          | some w => " (expecting " ++ w ++ ")"
          | none => "")

end Fault

end Gutter.Shell
