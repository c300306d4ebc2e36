/-!
# Patterns

What a regular expression is made of, and whether an automaton over bytes can decide it that knows
no tables of Unicode: it folds no letters, has no classes of letters or digits beyond ASCII, and
accepts no text that is not well formed. A filter may demand that a value matches such a pattern.
-/

namespace Gutter.Log

/-- The switches that change what the rest of a group means. Of the others a pattern keeps no
trace. -/
inductive Pattern.Switch where
  | foldCase
  | spaced
  | unicode
  deriving DecidableEq, Repr

namespace Pattern

abbrev Change := List (Switch × Bool)

/-- A character of a pattern, and whether it is written as the number of a byte. -/
structure Letter where
  char : Char
  isByte : Bool
  deriving DecidableEq, Repr

/-- What stands for one character or one place. -/
inductive Atom where
  | letter (l : Letter)
  | shorthand (negated : Bool)
  | any
  | anchor
  | wordEdge
  deriving DecidableEq, Repr

/-- A set of characters. -/
inductive CharSet where
  | atom (a : Atom)
  | range (low high : Letter)
  | named (negated : Bool)
  | bracket (negated : Bool) (content : CharSet)
  | union (parts : List CharSet)
  | combined (left right : CharSet)

end Pattern

/-- A regular expression. -/
inductive Pattern where
  | atom (a : Pattern.Atom)
  | change (c : Pattern.Change)
  | set (s : Pattern.CharSet)
  | repeated (p : Pattern)
  | group (c : Pattern.Change) (p : Pattern)
  | sequence (ps : List Pattern)
  | choice (ps : List Pattern)

namespace Pattern

/-! ## Nesting -/

namespace CharSet

mutual

/-- How deep the parts of a set are nested. -/
def depth : CharSet → Nat
  | .atom _ | .range _ _ | .named _ => 0
  | .bracket _ content => content.depth + 1
  | .union [] => 0
  | .union parts => depthAll parts + 1
  | .combined left right => max left.depth right.depth + 1

def depthAll : List CharSet → Nat
  | [] => 0
  | s :: ss => max s.depth (depthAll ss)

end

end CharSet

mutual

/-- How deep the parts of a pattern are nested. -/
def depth : Pattern → Nat
  | .atom _ | .change _ => 0
  | .set s => s.depth
  | .repeated p => p.depth + 1
  | .group _ p => p.depth + 1
  | .sequence [] => 0
  | .sequence ps => depthAll ps + 1
  | .choice ps => depthAll ps + 1

def depthAll : List Pattern → Nat
  | [] => 0
  | p :: ps => max p.depth (depthAll ps)

end

def depthLimit : Nat := 250

/-! ## What an automaton can decide -/

/-- The switches under which a part of a pattern is understood. -/
structure Mode where
  foldCase : Bool := false
  unicode : Bool := true
  deriving DecidableEq, Repr

namespace Mode

def turn (m : Mode) : Switch × Bool → Mode
  | (.foldCase, b) => { m with foldCase := b }
  | (.unicode, b) => { m with unicode := b }
  | (.spaced, _) => m

def apply (m : Mode) (c : Change) : Mode := c.foldl turn m

def admits (m : Mode) (l : Letter) : Bool := m.unicode || !l.isByte || l.char.toNat < 0x80

def admitsInSet (m : Mode) (l : Letter) : Bool :=
  if m.unicode then !m.foldCase else l.char.toNat < 0x80

end Mode

/-- Whether an automaton can decide a part that stands for one character or one place. -/
def Atom.isDecidable (m : Mode) : Atom → Bool
  | .letter l => m.admits l && !(m.unicode && m.foldCase)
  | .shorthand negated => !m.unicode && !negated
  | .any => m.unicode
  | .anchor => true
  | .wordEdge => !m.unicode

namespace CharSet

mutual

/-- Whether an automaton can decide which characters are in a set. -/
def isDecidable (m : Mode) : CharSet → Bool
  | .atom (.letter l) => m.admitsInSet l
  | .atom a => a.isDecidable m
  | .range low high => m.admitsInSet low && m.admitsInSet high
  | .named negated => if m.unicode then !m.foldCase else !negated
  | .bracket negated content => (m.unicode || !negated) && content.isDecidable m
  | .union parts => areDecidable m parts
  | .combined left right => left.isDecidable m && right.isDecidable m

def areDecidable (m : Mode) : List CharSet → Bool
  | [] => true
  | s :: ss => s.isDecidable m && areDecidable m ss

end

end CharSet

mutual

/-- The mode after a pattern, if an automaton can decide it. A group changes the mode for itself
only, and a change of switches for the rest of the group in which it stands. -/
def modeAfter? (m : Mode) : Pattern → Option Mode
  | .atom a => if a.isDecidable m then some m else none
  | .change c => some (m.apply c)
  | .set s => if s.isDecidable m then some m else none
  | .repeated p => p.modeAfter? m
  | .group c p => (p.modeAfter? (m.apply c)).map fun _ => m
  | .sequence ps => modeAfterAll? m ps
  | .choice ps => modeAfterAll? m ps

def modeAfterAll? (m : Mode) : List Pattern → Option Mode
  | [] => some m
  | p :: ps => do modeAfterAll? (← p.modeAfter? m) ps

end

def isDecidable (p : Pattern) : Bool :=
  p.depth ≤ depthLimit && (p.modeAfter? {}).isSome

end Pattern

end Gutter.Log
