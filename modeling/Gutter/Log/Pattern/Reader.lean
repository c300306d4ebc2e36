import Gutter.Log.Pattern
import Gutter.Text.Blank
import Gutter.Text.Letters

/-!
# Reading patterns

The pattern that a text spells. The text stands in the braces of a filter and so holds no closing
brace: a counted repetition, or anything else with braces around it, is never complete.
-/

namespace Gutter.Log.Pattern

def skip (spaced : Bool) (cs : List Char) : List Char :=
  if spaced then gap false cs else cs
where
  gap : (comment : Bool) → List Char → List Char
    | _, [] => []
    | true, c :: cs => gap (c ≠ '\n') cs
    | false, c :: cs =>
      if Text.isBlank c then gap false cs else if c = '#' then gap true cs else c :: cs

/-! ## Characters -/

def hexValue? (c : Char) : Option Nat :=
  if c.isDigit then some (c.toNat - '0'.toNat)
  else if 'a' ≤ c && c ≤ 'f' then some (c.toNat - 'a'.toNat + 10)
  else if 'A' ≤ c && c ≤ 'F' then some (c.toNat - 'A'.toNat + 10)
  else none

/-- The number of a run of hexadecimal digits that continues `value`, and the text after it. -/
def hex? (spaced : Bool) : (count value : Nat) → List Char → Option (Nat × List Char)
  | 0, value, cs => some (value, cs)
  | count + 1, value, cs =>
    match skip spaced cs with
    | [] => none
    | c :: cs => do hex? spaced count (16 * value + (← hexValue? c)) cs

def coded? (spaced : Bool) (count : Nat) (cs : List Char) : Option (Atom × List Char) := do
  let (n, rest) ← hex? spaced count 0 cs
  if n.isValidChar then return (.letter ⟨Char.ofNat n, count = 2⟩, skip spaced rest) else none

/-- The control character that a letter after a backslash stands for. -/
def control? : Char → Option Char
  | 'a' => some '\x07'
  | 't' => some '\t'
  | 'n' => some '\n'
  | 'v' => some '\x0b'
  | 'f' => some '\x0c'
  | 'r' => some '\r'
  | _ => none

/-- What a backslash and the text after it stand for. A class that is named by its property is never
one that can be decided, and is not read at all. -/
def escaped? (spaced : Bool) : List Char → Option (Atom × List Char)
  | 'x' :: cs => coded? spaced 2 cs
  | 'u' :: cs => coded? spaced 4 cs
  | 'U' :: cs => coded? spaced 8 cs
  | 'b' :: '{' :: _ => none
  | c :: cs =>
    match control? c with
    | some c => some (.letter ⟨c, false⟩, cs)
    | none =>
      if c ∈ ['d', 's', 'w'] then some (.shorthand false, cs)
      else if c ∈ ['D', 'S', 'W'] then some (.shorthand true, cs)
      else if c = 'A' || c = 'z' then some (.anchor, cs)
      else if c ∈ ['b', 'B', '<', '>'] then some (.wordEdge, cs)
      else if c.toNat < 0x80 && !c.isAlphanum then some (.letter ⟨c, false⟩, cs)
      else none
  | [] => none

/-- The atom that starts here, outside brackets. -/
def atom? (spaced : Bool) : List Char → Option (Atom × List Char)
  | '\\' :: cs => escaped? spaced cs
  | '.' :: cs => some (.any, cs)
  | '^' :: cs | '$' :: cs => some (.anchor, cs)
  | c :: cs => some (.letter ⟨c, false⟩, cs)
  | [] => none

/-! ## Brackets -/

def memberAtom? (spaced : Bool) : List Char → Option (Atom × List Char)
  | '\\' :: cs => escaped? spaced cs
  | c :: cs => some (.letter ⟨c, false⟩, cs)
  | [] => none

/-- The character that decides whether the hyphen before it makes a range. Of a comment only the
sign that starts it is passed over. -/
def afterHyphen (spaced : Bool) (cs : List Char) : Option Char :=
  if spaced then (seen false cs).or cs.head? else cs.head?
where
  seen : (comment : Bool) → List Char → Option Char
    | _, [] => none
    | comment, c :: cs =>
      if Text.isBlank c then seen comment cs
      else if c = '#' && !comment then seen true cs
      else some c

/-- The character or the range of characters that starts here. -/
def member? (spaced : Bool) (cs : List Char) : Option (CharSet × List Char) := do
  let (low, rest) ← memberAtom? spaced cs
  let rest := skip spaced rest
  let isRange : Bool := match rest with
    | '-' :: cs => afterHyphen spaced cs ∉ [some ']', some '-']
    | _ => false
  if isRange then
    let (high, rest) ← memberAtom? spaced (skip spaced (rest.drop 1))
    match low, high with
    | .letter low, .letter high =>
      if low.char ≤ high.char then return (.range low high, rest) else none
    | _, _ => none
  else
    match low with
    | .letter _ | .shorthand _ => return (.atom low, rest)
    | _ => none

def classNames : List String :=
  ["alnum", "alpha", "ascii", "blank", "cntrl", "digit", "graph", "lower", "print", "punct", "space",
    "upper", "word", "xdigit"]

/-- The named class whose opening bracket stands before this text. -/
def named? : List Char → Option (CharSet × List Char)
  | ':' :: cs =>
    let (negated, cs) := match cs with
      | '^' :: cs => (true, cs)
      | cs => (false, cs)
    let name := cs.takeWhile (· ≠ ':')
    match cs.drop name.length with
    | ':' :: ']' :: rest =>
      if String.ofList name ∈ classNames then some (.named negated, rest) else none
    | _ => none
  | _ => none

/-- The set with the parts in a list, the last one first, combined with what stands before it. -/
def CharSet.close (left : Option CharSet) (parts : List CharSet) : CharSet :=
  let right := match parts with
    | [s] => s
    | parts => .union parts.reverse
  match left with
  | some left => .combined left right
  | none => right

/-- The hyphens that stand for themselves at the start of a bracket, or else the bracket that
does. -/
def leading (spaced : Bool) (cs : List Char) : List CharSet × List Char :=
  match skip spaced cs with
  | ']' :: rest => ([.atom (.letter ⟨']', false⟩)], rest)
  | cs => hyphens (cs.length + 1) [] cs
where
  hyphens : (fuel : Nat) → (found : List CharSet) → List Char → List CharSet × List Char
    | 0, found, cs => (found, cs)
    | fuel + 1, found, cs =>
      match skip spaced cs with
      | '-' :: rest => hyphens fuel (.atom (.letter ⟨'-', false⟩) :: found) rest
      | cs => (found, cs)

mutual

/-- The bracket whose opening sign stands before this text. -/
def bracket? (spaced : Bool) : (fuel : Nat) → List Char → Option (CharSet × List Char)
  | 0, _ => none
  | fuel + 1, cs => do
    let (negated, cs) := match skip spaced cs with
      | '^' :: cs => (true, cs)
      | cs => (false, cs)
    let (parts, cs) := leading spaced cs
    let (content, rest) ← content? spaced fuel none parts cs
    return (.bracket negated content, rest)

/-- The rest of a bracket after the set `left` and an operator, and after the members `parts`, the
last one first. -/
def content? (spaced : Bool) : (fuel : Nat) → (left : Option CharSet) → (parts : List CharSet) →
    List Char → Option (CharSet × List Char)
  | 0, _, _, _ => none
  | fuel + 1, left, parts, cs =>
    match skip spaced cs with
    | [] => none
    | ']' :: rest => some (.close left parts, rest)
    | '&' :: '&' :: rest | '-' :: '-' :: rest | '~' :: '~' :: rest =>
      content? spaced fuel (some (.close left parts)) [] rest
    | '[' :: rest =>
      match named? rest with
      | some (s, rest) => content? spaced fuel left (s :: parts) rest
      | none => do
        let (s, rest) ← bracket? spaced fuel rest
        content? spaced fuel left (s :: parts) rest
    | cs => do
      let (s, rest) ← member? spaced cs
      content? spaced fuel left (s :: parts) rest

end

/-! ## Groups -/

/-- How a group begins. -/
inductive Opening where
  | change (c : Change)
  | group (c : Change)
  | named (name : List Char)

def isSwitch (c : Char) : Bool := c ∈ ['i', 'm', 's', 'U', 'u', 'R', 'x']

def switch? : Char → Option Switch
  | 'i' => some .foldCase
  | 'u' => some .unicode
  | 'x' => some .spaced
  | _ => none

/-- The switches that are set and, after a hyphen, cleared; each may be named once. -/
def change? (signs : List Char) : Option Change :=
  let set := signs.takeWhile (· ≠ '-')
  let tail := signs.drop set.length
  let cleared := tail.drop 1
  if (set ++ cleared).all isSwitch && (set ++ cleared).Nodup && (tail.isEmpty || !cleared.isEmpty)
  then
    some ((set.filterMap switch?).map (·, true) ++ (cleared.filterMap switch?).map (·, false))
  else none

/-- The start of the group whose opening sign stands before this text. -/
def opening? (spaced : Bool) (cs : List Char) : Option (Opening × List Char) :=
  match skip spaced cs with
  | '?' :: 'P' :: '<' :: rest => name? rest
  | '?' :: '<' :: rest => name? rest
  | '?' :: rest =>
    let signs := rest.takeWhile (fun c => c ≠ ':' && c ≠ ')')
    match rest.drop signs.length with
    | ':' :: rest => do return (.group (← change? signs), rest)
    | ')' :: rest => do if signs.isEmpty then none else return (.change (← change? signs), rest)
    | _ => none
  | rest => some (.group [], rest)
where
  name? (cs : List Char) : Option (Opening × List Char) :=
    let name := cs.takeWhile (· ≠ '>')
    let isFirst (c : Char) : Bool := c = '_' || Text.isLetter c
    let isNext (c : Char) : Bool := c ∈ ['_', '.', '[', ']'] || Text.isLetterOrDigit c
    match name, cs.drop name.length with
    | c :: more, _ :: rest =>
      if isFirst c && more.all isNext then some (.named name, rest) else none
    | _, _ => none

/-! ## Patterns -/

def row : List Pattern → Pattern
  | [p] => p
  | ps => .sequence ps.reverse

def rows : List Pattern → Pattern
  | [p] => p
  | ps => .choice ps.reverse

def isRepeatable : Pattern → Bool
  | .change _ => false
  | _ => true

/-- The rest of a group or, if it is not `inner`, of the whole pattern, with the names of the groups
in it and the text after it. Before it stand the rows `above` and, in the same row, the parts
`before`, each with the last one first. -/
def rest? : (fuel : Nat) → (inner spaced : Bool) → (names : List (List Char)) →
    (above before : List Pattern) → List Char → Option (Pattern × List (List Char) × List Char)
  | 0, _, _, _, _, _, _ => none
  | fuel + 1, inner, spaced, names, above, before, cs =>
    match skip spaced cs with
    | [] => if inner then none else some (rows (row before :: above), names, [])
    | ')' :: rest => if inner then some (rows (row before :: above), names, rest) else none
    | '|' :: rest => rest? fuel inner spaced names (row before :: above) [] rest
    | '(' :: rest => do
      match ← opening? spaced rest with
      | (.change c, rest) => rest? fuel inner (turned spaced c) names above (.change c :: before) rest
      | (.group c, rest) => do
        let (p, names, rest) ← rest? fuel true (turned spaced c) names [] [] rest
        rest? fuel inner spaced names above (.group c p :: before) rest
      | (.named name, rest) => do
        if name ∈ names then none
        else
          let (p, names, rest) ← rest? fuel true spaced (name :: names) [] [] rest
          rest? fuel inner spaced names above (.group [] p :: before) rest
    | '[' :: rest => do
      let (s, rest) ← bracket? spaced (2 * rest.length + 2) rest
      rest? fuel inner spaced names above (.set s :: before) rest
    | '{' :: _ => none
    | '*' :: rest | '+' :: rest | '?' :: rest =>
      let after := if rest.head? = some '?' then rest.drop 1 else rest
      match before with
      | p :: before =>
        if p.isRepeatable then rest? fuel inner spaced names above (.repeated p :: before) after
        else none
      | [] => none
    | cs => do
      let (a, rest) ← atom? spaced cs
      rest? fuel inner spaced names above (.atom a :: before) rest
where
  turned (spaced : Bool) (c : Change) : Bool :=
    c.foldl (fun b x => if x.1 = .spaced then x.2 else b) spaced

/-- The pattern that a text spells. Each step of reading takes a character away. -/
def ofText? (text : String) : Option Pattern :=
  let cs := text.toList
  (rest? (cs.length + 1) false false [] [] [] cs).map Prod.fst

/-! ## Values -/

/-- Whether a text is a number with a plus sign in front, which is a value though it is no
pattern. -/
def isPositive (cs : List Char) : Bool :=
  match cs with
  | '+' :: body =>
    let isInteger (ds : List Char) : Bool := !ds.isEmpty && ds.all Char.isDigit
    let mantissa := body.takeWhile (fun c => c ≠ 'e' && c ≠ 'E')
    let whole := mantissa.takeWhile (· ≠ '.')
    let fraction := (mantissa.dropWhile (· ≠ '.')).drop 1
    let exponent := match body.drop mantissa.length with
      | [] => true
      | _ :: '+' :: ds | _ :: '-' :: ds | _ :: ds => isInteger ds
    (String.ofList (body.map Char.toLower)) ∈ ["inf", "infinity", "nan"] ||
      ((!whole.isEmpty || !fraction.isEmpty) && (whole ++ fraction).all Char.isDigit && exponent)
  | _ => false

def isValue (text : String) : Bool :=
  isPositive text.toList || (ofText? text).any isDecidable

end Gutter.Log.Pattern
