/-!
# Patterns

A pattern is matched against a whole text. A star stands for any characters, a question mark for
one, and brackets for one of those between them. What is quoted stands for itself.
-/

namespace Gutter.Shell

structure Letter where
  char : Char
  isQuoted : Bool := false
  deriving DecidableEq, Repr

namespace Letter

def isSign (c : Char) (l : Letter) : Bool := l.char = c && !l.isQuoted

def text (ls : List Letter) : String := String.ofList (ls.map Letter.char)

def ofString (s : String) (isQuoted : Bool) : List Letter := s.toList.map (⟨·, isQuoted⟩)

end Letter

/-- A part of what stands between brackets. -/
inductive Range where
  | span (low high : Char)
  | property (name : String)
  deriving DecidableEq, Repr

namespace Range

/-- Whether a character has a property. -/
def hasProperty (name : String) (c : Char) : Bool :=
  match name with
  | "alpha" => c.isAlpha
  | "digit" => c.isDigit
  | "alnum" => c.isAlphanum
  | "upper" => c.isUpper
  | "lower" => c.isLower
  | "space" => c ∈ [' ', '\t', '\n', '\x0B', '\x0C', '\r']
  | "blank" => c ∈ [' ', '\t']
  | "punct" => '!' ≤ c && c ≤ '~' && !c.isAlphanum
  | "print" => ' ' ≤ c && c ≤ '~'
  | "graph" => '!' ≤ c && c ≤ '~'
  | "cntrl" => c < ' ' || c = '\x7F'
  | "xdigit" => c.isDigit || ('a' ≤ c && c ≤ 'f') || ('A' ≤ c && c ≤ 'F')
  | _ => false

def properties : List String :=
  ["alpha", "digit", "alnum", "upper", "lower", "space", "blank", "punct", "print", "graph",
    "cntrl", "xdigit"]

def contains (c : Char) : Range → Bool
  | .span low high => low ≤ c && c ≤ high
  | .property name => hasProperty name c

end Range

/-- A part of a pattern. -/
inductive Sign where
  | char (c : Char)
  | one
  | many
  | set (isNegated : Bool) (ranges : List Range)
  deriving DecidableEq, Repr

abbrev Pattern := List Sign

namespace Pattern

/-- The property whose name stands at the front, between colons and brackets, and how many letters
it takes. -/
def readProperty (ls : List Letter) : Option (Range × Nat) :=
  match Range.properties.find? fun name => Letter.text (ls.take (name.length + 4)) =
      "[:" ++ name ++ ":]" with
  | some name => some (.property name, name.length + 4)
  | none => none

/-- The character at the front and how many letters it takes. A backslash takes the meaning of the
next letter away. -/
def readChar : List Letter → Option (Char × Nat)
  | [] => none
  | l :: ls =>
    if l.isSign '\\' then (ls.head?.map fun x => (x.char, 2)) else some (l.char, 1)

/-- What stands between brackets, and how many letters it takes with the closing bracket. A closing
bracket at the start is one of the characters. -/
def readSet : (fuel : Nat) → (isFirst : Bool) → List Letter → Option (List Range × Nat)
  | 0, _, _ => none
  | _, _, [] => none
  | fuel + 1, isFirst, l :: ls =>
    if l.isSign ']' && !isFirst then some ([], 1)
    else do
      let (range, n) ←
        match if l.isSign '[' then readProperty (l :: ls) else none with
        | some x => some x
        | none => do
          let (low, n) ← readChar (l :: ls)
          match (l :: ls).drop n with
          | dash :: last :: rest =>
            if dash.isSign '-' && !last.isSign ']' then do
              let (high, m) ← readChar (last :: rest)
              some (.span low high, n + 1 + m)
            else some (.span low low, n)
          | _ => some (.span low low, n)
      let (ranges, m) ← readSet fuel false ((l :: ls).drop n)
      some (range :: ranges, n + m)

/-- The pattern that letters make; `skip` of them at the front belong to a sign that is already
read. -/
def ofLetters : (skip : Nat) → List Letter → Pattern
  | _, [] => []
  | skip + 1, _ :: ls => ofLetters skip ls
  | 0, l :: ls =>
    if l.isSign '*' then .many :: ofLetters 0 ls
    else if l.isSign '?' then .one :: ofLetters 0 ls
    else if l.isSign '\\' then
      match ls with
      | [] => [.char '\\']
      | next :: _ => .char next.char :: ofLetters 1 ls
    else if l.isSign '[' then
      let isNegated := ls.head?.any (·.isSign '!')
      let body := if isNegated then ls.tail else ls
      match readSet (ls.length + 1) true body with
      | some (ranges, n) =>
        .set isNegated ranges :: ofLetters (if isNegated then n + 1 else n) ls
      | none => .char '[' :: ofLetters 0 ls
    else .char l.char :: ofLetters 0 ls

def Sign.admits (c : Char) : Sign → Bool
  | .char x => c = x
  | .one => true
  | .many => false
  | .set isNegated ranges => ranges.any (Range.contains c) != isNegated

def anyEnd (p : List Char → Bool) : List Char → Bool
  | [] => p []
  | c :: cs => p (c :: cs) || anyEnd p cs

def matchesChars : Pattern → List Char → Bool
  | [], cs => cs.isEmpty
  | .many :: ps, cs => anyEnd (matchesChars ps) cs
  | _ :: _, [] => false
  | p :: ps, c :: cs => Sign.admits c p && matchesChars ps cs

def accepts (p : Pattern) (s : String) : Bool := matchesChars p s.toList

def isOpen (p : Pattern) : Bool :=
  p.any fun
    | .char _ => false
    | _ => true

/-- The text without the shortest or longest part at its start or end that a pattern matches. -/
def trim (p : Pattern) (atEnd longest : Bool) (s : String) : String :=
  let cs := s.toList
  let sizes := List.range (cs.length + 1)
  let sizes := if longest then sizes.reverse else sizes
  if atEnd then
    match sizes.find? fun n => matchesChars p (cs.drop (cs.length - n)) with
    | some n => String.ofList (cs.take (cs.length - n))
    | none => s
  else
    match sizes.find? fun n => matchesChars p (cs.take n) with
    | some n => String.ofList (cs.drop n)
    | none => s

end Pattern

end Gutter.Shell
