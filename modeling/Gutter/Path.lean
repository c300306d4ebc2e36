import Gutter.Text.Utf8

/-!
# Paths

A path is kept byte for byte as it was given. Two paths are the same file name when their
components agree: repeated and trailing slashes and inner dots do not count.
-/

namespace Gutter

/-- A path as given. -/
structure Path where
  bytes : List UInt8
  deriving DecidableEq, Repr

namespace Path

def ofString (s : String) : Path := ⟨Text.Utf8.encode s⟩

/-- The path as text; what is not UTF-8 shows as U+FFFD. -/
def display (p : Path) : String := Text.Utf8.decodeLossy p.bytes

def text? (p : Path) : Option String := Text.Utf8.decode? p.bytes

/-- One step of a path. -/
inductive Component where
  | root
  | current
  | parent
  | normal (name : List UInt8)
  deriving DecidableEq, Repr

/-- The parts between slashes. -/
def pieces : List UInt8 → List (List UInt8)
  | [] => [[]]
  | b :: rest =>
    if b = 0x2F then [] :: pieces rest
    else
      match pieces rest with
      | [] => [[b]]
      | piece :: others => (b :: piece) :: others

/-- What a part between slashes stands for, away from the start; empty parts and dots count for
nothing. -/
def Component.ofPiece? (piece : List UInt8) : Option Component :=
  if piece = [] || piece = [0x2E] then none
  else if piece = [0x2E, 0x2E] then some .parent
  else some (.normal piece)

/-- The steps of a path. -/
def components (p : Path) : List Component :=
  let parts := pieces p.bytes
  let start := match parts with
    | [] :: _ :: _ => [.root]
    | [0x2E] :: _ => [.current]
    | _ => []
  start ++ parts.filterMap Component.ofPiece?

def same (p q : Path) : Bool := p.components = q.components

def fileName? (p : Path) : Option (List UInt8) :=
  match p.components.getLast? with
  | some (.normal name) => some name
  | _ => none

/-- What follows the last dot of a name, if there is a dot. -/
def afterLastDot? : List Char → Option (List Char)
  | [] => none
  | c :: rest =>
    match afterLastDot? rest with
    | some ext => some ext
    | none => if c = '.' then some rest else none

/-- The text after the last dot of the file name. A name that begins with its only dot counts;
an empty extension and a file name that is not UTF-8 do not. -/
def extension? (p : Path) : Option String := do
  let name ← p.fileName?
  let name ← Text.Utf8.decode? name
  let ext ← afterLastDot? name.toList
  if ext.isEmpty then none else some (String.ofList ext)

end Path

end Gutter
