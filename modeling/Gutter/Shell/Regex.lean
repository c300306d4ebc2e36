/-!
# Regular expressions

What a regular expression matches in a text of bytes. Among the matches that start at one place there
is an order: a choice prefers what it names first, and a repetition prefers to go on. Of all matches
that start earliest and are longest there the first one counts.
-/

namespace Gutter.Shell

/-- A set of bytes: those in some ranges, or all others. -/
structure ByteSet where
  ranges : List (UInt8 × UInt8)
  isNegated : Bool := false
  deriving DecidableEq, Repr

namespace ByteSet

def contains (s : ByteSet) (b : UInt8) : Bool :=
  (s.ranges.any fun r => r.1 ≤ b && b ≤ r.2) != s.isNegated

def single (b : UInt8) : ByteSet := ⟨[(b, b)], false⟩

/-- The bytes of words: letters, digits and the underscore. -/
def word : ByteSet := ⟨[(0x30, 0x39), (0x41, 0x5A), (0x5F, 0x5F), (0x61, 0x7A)], false⟩

def complement (s : ByteSet) : ByteSet := { s with isNegated := !s.isNegated }

end ByteSet

def otherCase (b : UInt8) : UInt8 :=
  if 0x41 ≤ b && b ≤ 0x5A then b + 0x20
  else if 0x61 ≤ b && b ≤ 0x7A then b - 0x20
  else b

/-- A condition on what is around a place in a text. -/
inductive Place where
  | textStart
  | textEnd
  | lineStart
  | lineEnd
  | wordStart
  | wordEnd
  | wordEdge
  | noWordEdge
  deriving DecidableEq, Repr

/-- A regular expression. -/
inductive Regex where
  | empty
  | byte (set : ByteSet)
  | place (p : Place)
  | sequence (first second : Regex)
  | either (first second : Regex)
  | repeated (least : Nat) (most : Option Nat) (body : Regex)
  | group (number : Nat) (body : Regex)
  | again (number : Nat) (ignoresCase : Bool)
  deriving DecidableEq, Repr

namespace Regex

structure Found where
  stop : Nat
  groups : List (Nat × Nat × Nat) := []
  deriving DecidableEq, Repr

def looksBack : Regex → Bool
  | .again .. => true
  | .sequence a b | .either a b => a.looksBack || b.looksBack
  | .repeated _ _ body | .group _ body => body.looksBack
  | .empty | .byte _ | .place _ => false

/-- Whether a place is as an expression says. -/
def isAt (text : Array UInt8) (i : Nat) (p : Place) : Bool :=
  let before? : Option UInt8 := if i = 0 then none else text[i - 1]?
  let before := before?.any ByteSet.word.contains
  let after := text[i]?.any ByteSet.word.contains
  match p with
  | .textStart => i = 0
  | .textEnd => i = text.size
  | .lineStart => before?.all (· = 0x0A)
  | .lineEnd => text[i]?.all (· = 0x0A)
  | .wordStart => !before && after
  | .wordEnd => before && !after
  | .wordEdge => before != after
  | .noWordEdge => before == after

def isSame (text : Array UInt8) (ignoresCase : Bool) (i j size : Nat) : Bool :=
  (List.range size).all fun k =>
    match text[i + k]?, text[j + k]? with
    | some a, some b => a = b || (ignoresCase && otherCase a = b)
    | _, _ => false

/-- Results without those that stop where an earlier one stops. Results can differ in more than that
only if groups are looked back at. -/
def distinct (looksBack : Bool) (xs : List Found) : List Found :=
  match xs with
  | [] => []
  | [x] => [x]
  | xs =>
    if looksBack then xs.eraseDups
    else
      let (_, kept) := xs.foldl (fun (seen, kept) x =>
        if seen.testBit x.stop then (seen, kept) else (seen ||| (1 <<< x.stop), x :: kept)) (0, [])
      kept.reverse

def runLength (text : Array UInt8) (set : ByteSet) : (limit : Nat) → (start : Nat) → Nat → Nat
  | 0, _, n => n
  | limit + 1, start, n =>
    if text[start + n]?.any set.contains then runLength text set limit start (n + 1) else n

/-- A result behind one more match of a part that may match once more. A match of nothing only gives
groups a value that have none. -/
def Found.goOn (x y : Found) : Found :=
  if x.stop < y.stop then y
  else { x with groups := x.groups ++ y.groups.filter fun g => x.groups.all (·.1 ≠ g.1) }

/-- The results behind no match of a part, behind one match, and so on. `least` says how many matches
there must be. -/
def levels (looksBack : Bool) (step : Found → List Found) :
    (count : Nat) → (least : Nat) → List Found → List (List Found)
  | 0, _, xs => [xs]
  | count + 1, least, xs =>
    let next (x : Found) : List Found := if least = 0 then (step x).map x.goOn else step x
    if xs.isEmpty then [] else
      xs :: levels looksBack step count (least - 1) (distinct looksBack (xs.flatMap next))

/-- The results behind any number of matches of a part; more of them are preferred. `seen` tells
where the part has been looked for; what is found comes last one first. -/
def closure (looksBack : Bool) (step : Found → List Found) :
    (limit : Nat) → (seen : Nat) → (found : List Found) → Found → Nat × List Found
  | 0, seen, found, x => (seen, x :: found)
  | limit + 1, seen, found, x =>
    if !looksBack && seen.testBit x.stop then (seen, found)
    else
      let nexts := step x
      let (seen, found) := (nexts.filter fun y => x.stop < y.stop).foldl (fun (seen, found) y =>
        closure looksBack step limit seen found y) (seen ||| (1 <<< x.stop), found)
      let here := (nexts.find? fun y => y.stop = x.stop).elim x x.goOn
      (seen, here :: found)

/-- All that an expression matches behind something that is found, what it prefers first. -/
def ends (looksBack : Bool) (text : Array UInt8) : Regex → Found → List Found
  | .empty, x => [x]
  | .byte set, x =>
    if text[x.stop]?.any set.contains then [{ x with stop := x.stop + 1 }] else []
  | .place p, x => if isAt text x.stop p then [x] else []
  | .sequence a b, x =>
    distinct looksBack ((a.ends looksBack text x).flatMap (b.ends looksBack text))
  | .either a b, x => distinct looksBack (a.ends looksBack text x ++ b.ends looksBack text x)
  | .group n body, x =>
    (body.ends looksBack text x).map fun y =>
      { y with groups := (n, x.stop, y.stop) :: y.groups.filter (·.1 ≠ n) }
  | .again n ignoresCase, x =>
    match x.groups.lookup n with
    | none => []
    | some (i, j) =>
      if isSame text ignoresCase i x.stop (j - i) then [{ x with stop := x.stop + (j - i) }] else []
  | .repeated least most (.byte set), x =>
    let n := runLength text set (most.getD (text.size - x.stop)) x.stop 0
    (List.range (n + 1 - least)).map fun k => { x with stop := x.stop + (n - k) }
  | .repeated least most body, x =>
    let step := body.ends looksBack text
    match most with
    | some most =>
      distinct looksBack ((levels looksBack step most least [x]).drop least).reverse.flatten
    | none =>
      let starts := ((levels looksBack step least least [x]).drop least).flatten
      distinct looksBack (starts.flatMap fun y =>
        (closure looksBack step (text.size + 1) 0 [] y).2.reverse)

/-- A match: where it starts and stops, and from where to where the groups go. -/
structure Match where
  start : Nat
  stop : Nat
  groups : List (Nat × Nat × Nat)
  deriving DecidableEq, Repr

/-- The longest of some results; of several the first. -/
def longest? : List Found → Option Found
  | [] => none
  | x :: xs => some (xs.foldl (fun best y => if best.stop < y.stop then y else best) x)

def matchAt? (r : Regex) (text : Array UInt8) (start : Nat) : Option Match :=
  (longest? (r.ends r.looksBack text { stop := start })).map fun x => ⟨start, x.stop, x.groups⟩

def findFrom (r : Regex) (text : Array UInt8) : (count : Nat) → (start : Nat) → Option Match
  | 0, _ => none
  | count + 1, start =>
    match r.matchAt? text start with
    | some m => some m
    | none => r.findFrom text count (start + 1)

def find? (r : Regex) (text : Array UInt8) (start : Nat) : Option Match :=
  r.findFrom text (text.size + 1 - start) start

namespace Match

def part (text : Array UInt8) (i j : Nat) : List UInt8 := (text.extract i j).toList

def whole (m : Match) (text : Array UInt8) : List UInt8 := part text m.start m.stop

/-- What a group has matched, if it has; the group zero is the whole match. -/
def group? (m : Match) (text : Array UInt8) (n : Nat) : Option (List UInt8) :=
  if n = 0 then some (m.whole text)
  else (m.groups.lookup n).map fun (i, j) => part text i j

end Match

/-! ## Parts -/

def sequenceOf : List Regex → Regex
  | [] => .empty
  | [r] => r
  | r :: rs => .sequence r (sequenceOf rs)

def groupCount : Regex → Nat
  | .group n body => max n body.groupCount
  | .sequence a b | .either a b => max a.groupCount b.groupCount
  | .repeated _ _ body => body.groupCount
  | .empty | .byte _ | .place _ | .again .. => 0

end Regex

end Gutter.Shell
