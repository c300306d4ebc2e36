import Gutter.Shell.Number
import Gutter.Shell.Regex.Reader

/-!
# Regular expressions in scripts of rules

The written form of regular expressions in scripts of rules: the extended one without references to
groups, in which a backslash has its meaning in brackets too, and nothing may be left out.
-/

namespace Gutter.Shell.Rules

namespace Pattern

/-- Why a text is no regular expression. -/
inductive Fault where
  | operand
  | unclosed
  | brackets
  | interval
  | repeatedStart
  deriving DecidableEq, Repr

def Fault.message : Fault → String
  | operand => "missing operand"
  | unclosed => "missing ')'"
  | brackets => "bad class -- [], [^] or ["
  | interval => "bad interval expression"
  | repeatedStart => "syntax error ^* or ^+"

/-- The character that an escape stands for behind its backslash, and what follows. -/
def escape (cs : List Char) : Char × List Char :=
  let named := [('n', '\n'), ('t', '\t'), ('v', '\x0B'), ('f', '\x0C'), ('r', '\r'),
    ('a', '\x07'), ('b', '\x08')]
  match cs with
  | [] => ('\\', [])
  | c :: rest =>
    if '0' ≤ c && c ≤ '7' then
      let ds := (cs.take 3).takeWhile fun c => '0' ≤ c && c ≤ '7'
      (Char.ofNat (Shell.Number.ofDigits 8 ds % 256), cs.drop ds.length)
    else if c = 'x' then
      let ds := (rest.take 2).takeWhile fun c => (Shell.Number.digit? c).isSome
      if ds.isEmpty then (c, rest)
      else (Char.ofNat (Shell.Number.ofDigits 16 ds), rest.drop ds.length)
    else ((named.lookup c).getD c, rest)

/-! ## Brackets -/

/-- The bytes between two characters, in a set with both; if the second comes before the first, the
set has only them and the dash. -/
def between (a b : Char) : List (UInt8 × UInt8) :=
  let (a, b) := (Regex.byteOf a, Regex.byteOf b)
  if b < a then [(a, a), (0x2D, 0x2D), (b, b)] else [(a, b)]

/-- The ranges in brackets up to the closing one, and what follows it. -/
def readRanges : (fuel : Nat) → (isFirst : Bool) → List Char →
    Except Fault (List (UInt8 × UInt8) × List Char)
  | 0, _, _ => .error .brackets
  | fuel + 1, isFirst, cs => do
    match cs with
    | [] => throw .brackets
    | '[' :: ':' :: rest =>
      let name := rest.takeWhile Char.isAlpha
      match Regex.classRanges? (String.ofList name), rest.drop name.length with
      | some ranges, ':' :: ']' :: rest => do
        let (more, rest) ← readRanges fuel false rest
        return (ranges ++ more, rest)
      | _, _ => throw .brackets
    | c :: rest =>
      if c = ']' && !isFirst then return ([], rest)
      else
        let (a, rest) := if c = '\\' then escape rest else (c, rest)
        match rest with
        | '-' :: ']' :: _ | '-' :: '[' :: ':' :: _ =>
          let (more, rest) ← readRanges fuel false rest
          return (between a a ++ more, rest)
        | '-' :: b :: rest =>
          let (b, rest) := if b = '\\' then escape rest else (b, rest)
          let (more, rest) ← readRanges fuel false rest
          return (between a b ++ more, rest)
        | rest =>
          let (more, rest) ← readRanges fuel false rest
          return (between a a ++ more, rest)

def readSet (cs : List Char) : Except Fault (Regex × List Char) := do
  let (isNegated, inner) := match cs with
    | '^' :: rest => (true, rest)
    | cs => (false, cs)
  let (ranges, rest) ← readRanges (inner.length + 1) true inner
  return (.byte ⟨ranges, isNegated⟩, rest)

/-! ## Repetitions -/

/-- The numbers of an interval behind an opening brace, and what follows it; `none` if it is no
interval. -/
def readInterval (cs : List Char) : Option (Nat × Option Nat × List Char) :=
  let ds := cs.takeWhile Char.isDigit
  let n := Shell.Number.ofDigits 10 ds
  match cs.drop ds.length with
  | '}' :: rest => if ds.isEmpty then none else some (n, some n, rest)
  | ',' :: rest =>
    let es := rest.takeWhile Char.isDigit
    match rest.drop es.length with
    | '}' :: after =>
      if ds.isEmpty && es.isEmpty then none
      else some (n, if es.isEmpty then none else some (Shell.Number.ofDigits 10 es), after)
    | _ => none
  | _ => none

/-- The repetitions behind an expression. -/
def readRepetitions : (fuel : Nat) → Regex → List Char → Except Fault (Regex × List Char)
  | 0, r, cs => .ok (r, cs)
  | fuel + 1, r, cs =>
    let isStart : Bool := r = .place .textStart
    let again (least : Nat) (most : Option Nat) (rest : List Char) :
        Except Fault (Regex × List Char) :=
      if isStart then .error .repeatedStart
      else readRepetitions fuel (if most = some 0 then .empty else .repeated least most r) rest
    match cs with
    | '*' :: rest => again 0 none rest
    | '+' :: rest => again 1 none rest
    | '?' :: rest => again 0 (some 1) rest
    | '{' :: rest =>
      match readInterval rest with
      | none => .ok (r, cs)
      | some (least, most, rest) =>
        if most.any (· < least) then .error .interval else again least most rest
    | cs => .ok (r, cs)

/-! ## Expressions -/

mutual

def readChoice : (fuel depth : Nat) → List Char → Except Fault (Regex × List Char)
  | 0, _, cs => .ok (.empty, cs)
  | fuel + 1, depth, cs => do
    let (a, rest) ← readParts fuel depth true cs
    match rest with
    | '|' :: rest =>
      let (b, rest) ← readChoice fuel depth rest
      return (.either a b, rest)
    | rest => return (a, rest)

/-- Expressions one after the other. -/
def readParts : (fuel depth : Nat) → (isFirst : Bool) → List Char → Except Fault (Regex × List Char)
  | 0, _, _, cs => .ok (.empty, cs)
  | fuel + 1, depth, isFirst, cs => do
    let isEnd : Bool := match cs with
      | [] | '|' :: _ => true
      | c :: _ => c = ')' && depth ≠ 0
    if isEnd then
      if !isFirst then return (.empty, cs)
      else if cs.isEmpty && depth ≠ 0 then throw .unclosed
      else throw .operand
    else
      let (a, rest) ← readPart fuel depth cs
      let (a, rest) ← readRepetitions (rest.length + 1) a rest
      match ← readParts fuel depth false rest with
      | (.empty, rest) => return (a, rest)
      | (b, rest) => return (.sequence a b, rest)

/-- An expression without repetitions. -/
def readPart : (fuel depth : Nat) → List Char → Except Fault (Regex × List Char)
  | 0, _, cs => .ok (.empty, cs)
  | fuel + 1, depth, cs =>
    let literal (c : Char) (rest : List Char) : Except Fault (Regex × List Char) :=
      .ok (.byte (.single (Regex.byteOf c)), rest)
    match cs with
    | [] => .error .operand
    | '(' :: rest => do
      let (r, rest) ← readChoice fuel (depth + 1) rest
      match rest with
      | ')' :: rest => return (r, rest)
      | _ => throw .unclosed
    | '*' :: _ | '+' :: _ | '?' :: _ => .error .operand
    | '^' :: rest => .ok (.place .textStart, rest)
    | '$' :: rest => .ok (.place .textEnd, rest)
    | '.' :: rest => .ok (.byte ⟨[], true⟩, rest)
    | '[' :: rest => readSet rest
    | '\\' :: rest =>
      let (c, rest) := escape rest
      literal c rest
    | c :: rest => literal c rest

end

def ofText (text : String) : Except Fault Regex := do
  let cs := text.toList
  if cs.isEmpty then return .empty
  let (r, _) ← readChoice (4 * cs.length + 4) 0 cs
  return r

end Pattern

end Gutter.Shell.Rules
