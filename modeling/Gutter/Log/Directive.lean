import Gutter.Log.Event
import Gutter.Log.Pattern.Reader
import Gutter.Text.Blank
import Gutter.Text.Letters
import Gutter.Text.Utf8

/-!
# Directives of a filter

A directive sets the level for some events: `level`, `target`, `target=level`, and in the general
form `target[span{field=value}]=level`. Events stand in no span here, so a directive that names a
span or asks for a value is understood, but concerns no event.
-/

namespace Gutter.Log

/-- The most detailed level that is written of the events that have a field and whose source begins
with `target`; no level writes nothing. -/
structure Directive where
  target : Option String
  field : Option String
  level : Option Level
  deriving DecidableEq, Repr

namespace Directive

def holdsFor (d : Directive) (e : Event) : Bool :=
  (d.target.all fun t => t.toList.isPrefixOf e.source.name.toList) &&
    d.field.all (· ∈ e.fieldNames)

def number? (word : String) : Option Nat :=
  match word.toList with
  | '+' :: ds => if ds.all Char.isDigit then (String.ofList ds).toNat? else none
  | ds => if ds.all Char.isDigit then word.toNat? else none

/-- The level of a word, in any letter case, or of a number. -/
def level? (word : String) : Option (Option Level) :=
  match number? word with
  | some 0 => some none
  | some 1 => some (some .error)
  | some 2 => some (some .warn)
  | some 3 => some (some .info)
  | some 4 => some (some .debug)
  | some 5 => some (some .trace)
  | some _ => none
  | none =>
    match word.map Char.toLower with
    | "off" => some none
    | "error" => some (some .error)
    | "warn" => some (some .warn)
    | "info" => some (some .info)
    | "debug" => some (some .debug)
    | "trace" => some (some .trace)
    | _ => none

/-! ## Reading -/

/-- What has been read of a directive. -/
structure Sketch where
  target : Option String := none
  hasSpan : Bool := false
  field : Option (String × Bool) := none

/-- Where the reading of a directive stands. A part that is not complete is known by its start. -/
inductive Spot where
  | start
  | name (first : Nat)
  | span (first : Nat)
  | field (first : Nat)
  | fieldClosed
  | spanClosed
  | level (first : Nat)

def cut (bytes : List UInt8) (first last : Nat) : Option String :=
  Text.Utf8.decode? ((bytes.drop first).take (last - first))

/-- The field that a text names, and whether it also gives a value. -/
def field? (text : String) : Option (String × Bool) :=
  if text.isEmpty then none
  else
    match text.splitOn "=" with
    | name :: value :: _ => if Pattern.isValue value then some (name, true) else none
    | _ => some (text, false)

/-- One step of reading: the character `c` at the place `i`. -/
def advance (bytes : List UInt8) (i : Nat) (c : Char) : Spot × Sketch → Option (Spot × Sketch)
  | (.start, s) =>
    if c = '[' then some (.span (i + 1), s)
    else if c ∈ ['-', ':', '_'] || Text.isLetterOrDigit c then some (.name i, s)
    else none
  | (.name first, s) =>
    if c = '=' then do return (.level (i + 1), { s with target := some (← cut bytes first i) })
    else if c = '[' then do return (.span (i + 1), { s with target := some (← cut bytes first i) })
    else some (.name first, s)
  | (.span first, s) =>
    if c = ']' then some (.spanClosed, { s with hasSpan := true })
    else if c = '{' then some (.field (i + 1), { s with hasSpan := first ≠ i })
    else some (.span first, s)
  | (.field first, s) =>
    if c = '}' then do
      let field ← field? (← cut bytes first i)
      return (.fieldClosed, { s with field := some field })
    else some (.field first, s)
  | (.fieldClosed, s) => if c = ']' then some (.spanClosed, s) else none
  | (.spanClosed, s) => if c = '=' then some (.level (i + 1), s) else none
  | (.level first, s) => some (.level first, s)

def walk (bytes : List UInt8) : Nat → List Char → Spot × Sketch → Option (Spot × Sketch)
  | _, [], x => some x
  | i, c :: cs, x => do walk bytes (i + c.utf8Size) cs (← advance bytes i c x)

def ofSketch (s : Sketch) (level : Option Level) : Option Directive :=
  if s.hasSpan || s.field.any Prod.snd then none
  else some ⟨s.target, s.field.map Prod.fst, level⟩

/-- The directive that a text spells, if it spells one, and if that concerns any events. Blanks at
the ends of the text are not read, but they are not taken away either: places are counted without
the blanks in front, and the parts are cut out of the whole text. -/
def ofText? (text : String) : Option (Option Directive) := do
  let bytes := Text.Utf8.encode text
  let toEnd (first : Nat) : Option String := cut bytes first bytes.length
  let (spot, s) ← walk bytes 0 (Text.trimChars text.toList) (.start, {})
  match spot with
  | .name first =>
    let word ← toEnd first
    return match level? word with
      | some level => some ⟨none, none, level⟩
      | none => some ⟨some word, none, some .trace⟩
  | .level first =>
    let word ← toEnd first
    if word.isEmpty then return ofSketch s (some .trace)
    else return ofSketch s (← level? word)
  | .spanClosed => return ofSketch s (some .trace)
  | _ => none

end Directive

end Gutter.Log
