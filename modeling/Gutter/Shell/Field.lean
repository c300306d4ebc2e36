import Gutter.Shell.Pattern

/-!
# Fields

What is put into a word is split into fields at separators, except where it is quoted. Blanks that
are separators do not make empty fields, other separators do.
-/

namespace Gutter.Shell

/-- What a word gives when its parameters and scripts have been put in. -/
inductive Glyph where
  | letter (l : Letter) (splits : Bool)
  | quotes
  | cut (keepsEmpty : Bool)
  | seam (isList : Bool)
  deriving DecidableEq, Repr

namespace Glyph

def ofString (s : String) (isQuoted splits : Bool) : List Glyph :=
  s.toList.map fun c => .letter ⟨c, isQuoted⟩ splits

/-- What is put in at one place: it is split unless it is quoted. -/
def ofValue (s : String) (isQuoted : Bool) : List Glyph :=
  if isQuoted then ofString s true false else .seam false :: ofString s false true

def letters (gs : List Glyph) : List Letter :=
  gs.filterMap fun
    | .letter l _ => some l
    | _ => none

def text (gs : List Glyph) : String := Letter.text (letters gs)

end Glyph

abbrev Field := List Letter

namespace Field

def blanks : List Char := [' ', '\t', '\n']

/-- How a letter separates. -/
inductive Separation where
  | none
  | blank
  | other
  deriving DecidableEq, Repr

/-- How a glyph separates. Blanks are not special where the splitting is strict. -/
def separation (separators : List Char) (isStrict : Bool) : Glyph → Separation
  | .letter l true =>
    if l.char ∉ separators then .none
    else if l.char ∈ blanks && !isStrict then .blank
    else .other
  | .cut false => if isStrict then .other else .blank
  | _ => .none

/-- How far splitting has come. -/
structure Progress where
  done : List Field := []
  current : Field := []
  isStarted : Bool := false
  afterBlank : Bool := false
  inList : Bool := false
  isStrict : Bool := false

namespace Progress

def close (afterBlank : Bool) (p : Progress) : Progress :=
  { p with done := p.current.reverse :: p.done, current := [], isStarted := false, afterBlank }

def passesOver (separators : List Char) (p : Progress) (g : Glyph) : Bool :=
  match g, separation separators p.isStrict g with
  | .seam _, _ => true
  | _, .none => false
  | _, .blank => !p.isStarted
  | _, .other => p.afterBlank

def add (separators : List Char) (p : Progress) (g : Glyph) : Progress :=
  match g, separation separators p.isStrict g with
  | .seam isList, _ => { p with afterBlank := false, inList := isList, isStrict := p.inList }
  | .letter l _, .none =>
    { p with current := l :: p.current, isStarted := true, afterBlank := false }
  | .quotes, .none => { p with isStarted := true, afterBlank := false }
  | .cut _, .none => p.close false
  | g, .blank => if p.passesOver separators g then p else p.close true
  | g, .other => if p.passesOver separators g then { p with afterBlank := false } else p.close false

/-- All fields. The last one in a list is there even if it is empty. -/
def fields (p : Progress) : List Field :=
  (if p.isStarted || p.inList then p.close false else p).done.reverse

end Progress

def split (separators : List Char) (gs : List Glyph) : List Field :=
  (gs.foldl (Progress.add separators) {}).fields

/-! ## A limited number of fields -/

/-- The rest of a line as one field. If it is just one field, its end does not count; otherwise all
separators count, except for blanks at the end. Letters that never separate have no say in this.
`kept` holds what is read so far, the last letter first, and `cut` is the part of it behind which
nothing counts. -/
def remainder (separators : List Char) (kept : List Letter) (cut : Option (List Letter))
    (inTail afterBlank : Bool) : List Glyph → Field
  | [] => (cut.getD kept).reverse
  | .letter l true :: gs =>
    match separation separators false (.letter l true), inTail with
    | .none, inTail => remainder separators (l :: kept) none inTail false gs
    | s, false => remainder separators (l :: kept) (some kept) true (s = .blank) gs
    | .blank, true => remainder separators (l :: kept) (cut <|> some kept) true afterBlank gs
    | .other, true =>
      remainder separators (l :: kept) (if afterBlank then cut else none) true false gs
  | .letter l false :: gs => remainder separators (l :: kept) cut inTail false gs
  | _ :: gs => remainder separators kept cut inTail false gs

def splitAtMost (separators : List Char) (limit : Nat) (p : Progress) :
    List Glyph → List Field
  | [] => p.fields
  | g :: gs =>
    if p.done.length + 1 = limit && !p.isStarted && !p.passesOver separators g then
      p.done.reverse ++ [remainder separators [] none false false (g :: gs)]
    else splitAtMost separators limit (p.add separators g) gs

end Field

end Gutter.Shell
