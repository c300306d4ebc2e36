import Gutter.Shell.Regex.Reader
import Gutter.Shell.Tool

/-!
# Formulas

The program that works out a formula of which each sign is a word. A formula is worked out while it is
read, so what it asks for in vain is told before what is wrong behind that.
-/

namespace Gutter.Shell.Tool

namespace Formula

/-! ## Values -/

/-- A value: a number, or a text that may spell one. -/
inductive Value where
  | number (n : Int)
  | text (s : String)
  deriving DecidableEq, Repr

namespace Value

/-- The number that a text spells: digits, perhaps behind a minus sign. -/
def integer? (s : String) : Option Int :=
  let (isNegative, digits) := match s.toList with
    | '-' :: digits => (true, digits)
    | digits => (false, digits)
  if digits.isEmpty || !digits.all Char.isDigit then none
  else
    let n : Int := digits.foldl (fun n c => n * 10 + (c.toNat - '0'.toNat)) 0
    some (if isNegative then -n else n)

def toText : Value → String
  | number n => toString n
  | text s => s

def toInt? : Value → Option Int
  | number n => some n
  | text s => integer? s

/-- Whether a value counts as nothing: it is empty, or zero. -/
def isNull (v : Value) : Bool :=
  match v with
  | number n => n = 0
  | text s => s.isEmpty || integer? s = some 0

def ofBool (b : Bool) : Value := number (if b then 1 else 0)

end Value

/-- Why a formula has no value. -/
inductive Fault where
  | missing (before : String)
  | unexpected (word : String)
  | unexpectedClose
  | unclosed (before : String)
  | wantsClose (word : String)
  | noNumber
  | divisionByZero
  | expression (f : Regex.Fault)
  deriving DecidableEq, Repr

def Fault.message : Fault → String
  | missing word => "syntax error: missing argument after " ++ Quoting.word word
  | unexpected word => "syntax error: unexpected argument " ++ Quoting.word word
  | unexpectedClose => "syntax error: unexpected ')'"
  | unclosed word => "syntax error: expecting ')' after " ++ Quoting.word word
  | wantsClose word => "syntax error: expecting ')' instead of " ++ Quoting.word word
  | noNumber => "non-integer argument"
  | divisionByZero => "division by zero"
  | expression f => f.message

/-! ## Functions -/

/-- The part of a text that a regular expression matches at its start: what its first group matches,
or the length of the match if it has no group. -/
def matched (text pattern : String) : Except Fault Value :=
  let dialect : Regex.Dialect := { checksClasses := false, allowsBackwards := true }
  match Regex.ofText dialect pattern with
  | .error f => .error (.expression f)
  | .ok (r, _) =>
    let bytes := (Text.Octets.toBytes text).toArray
    let hasGroups := 0 < r.groupCount
    match r.matchAt? bytes 0 with
    | none => .ok (if hasGroups then .text "" else .number 0)
    | some m =>
      .ok (if hasGroups then .text (Text.Octets.ofBytes ((m.group? bytes 1).getD []))
        else .number m.stop)

/-- The place of the first character of a text that is one of some, counted from one; zero if there
is none. -/
def index (text letters : String) : Nat :=
  let behind := text.toList.dropWhile fun c => c ∉ letters.toList
  if behind.isEmpty then 0 else text.length - behind.length + 1

def part (text : String) (place length : Value) : String :=
  match place.toInt?, length.toInt? with
  | some place, some length =>
    if 0 < place && 0 < length then
      String.ofList ((text.toList.drop (place.toNat - 1)).take length.toNat)
    else ""
  | _, _ => ""

/-! ## Operators -/

/-- The operators between values; those that come first hold less tightly. -/
def operators : List (List String) :=
  [["|"], ["&"], ["<", "<=", "=", "==", "!=", ">=", ">"], ["+", "-"], ["*", "/", "%"], [":"]]

def needs (operator : String) (a : Value) : Bool :=
  match operator with
  | "|" => a.isNull
  | "&" => !a.isNull
  | _ => true

/-- How two values compare: as numbers if both are, and by their bytes if not. -/
def order (a b : Value) : Ordering :=
  match Value.integer? a.toText, Value.integer? b.toText with
  | some x, some y => compare x y
  | _, _ => compare a.toText b.toText

/-- The value of an operation. If it does not count, there are no faults in it. -/
def combine (counts : Bool) (operator : String) (a b : Value) : Except Fault Value :=
  let compared (f : Ordering → Bool) : Except Fault Value :=
    .ok (.ofBool (counts && f (order a b)))
  let numbers (f : Int → Int → Except Fault Int) : Except Fault Value :=
    if !counts then .ok a
    else
      match a.toInt?, b.toInt? with
      | some x, some y => (f x y).map .number
      | _, _ => .error .noNumber
  let divided (f : Int → Int → Int) : Except Fault Value :=
    numbers fun x y => if y = 0 then .error .divisionByZero else .ok (f x y)
  match operator with
  | "|" => .ok (if !a.isNull then a else if b.isNull then .number 0 else b)
  | "&" => .ok (if a.isNull || b.isNull then .number 0 else a)
  | "<" => compared (· = .lt)
  | "<=" => compared (· ≠ .gt)
  | "=" | "==" => compared (· = .eq)
  | "!=" => compared (· ≠ .eq)
  | ">=" => compared (· ≠ .lt)
  | ">" => compared (· = .gt)
  | "+" => numbers fun x y => .ok (x + y)
  | "-" => numbers fun x y => .ok (x - y)
  | "*" => numbers fun x y => .ok (x * y)
  | "/" => divided Int.tdiv
  | "%" => divided Int.tmod
  | ":" => if counts then matched a.toText b.toText else .ok a
  | _ => .ok a

/-! ## Reading -/

abbrev Rest (words : List String) := { rest : List String // rest.length < words.length }

abbrev Left (words : List String) := { rest : List String // rest.length ≤ words.length }

theorem length_lt_cons (word : String) (words : List String) :
    words.length < (word :: words).length :=
  Nat.lt_succ_self _

def lastWord (words rest : List String) : String :=
  (words.take (words.length - rest.length)).getLast?.getD ""

mutual

/-- Reads a value without operators around it. `before` is the word in front of it. -/
def readTerm (counts : Bool) (before : String) :
    (words : List String) → Except Fault (Value × Rest words)
  | [] => .error (.missing before)
  | "+" :: words =>
    match words with
    | [] => .error (.missing "+")
    | word :: rest => .ok (.text word, ⟨rest, by simp only [List.length_cons]; omega⟩)
  | "length" :: words => do
    let (a, ⟨rest, h⟩) ← readTerm counts "length" words
    return (.number a.toText.length, ⟨rest, by simp only [List.length_cons]; omega⟩)
  | "match" :: words => do
    let (a, ⟨rest, h⟩) ← readTerm counts "match" words
    let (b, ⟨rest, h⟩) ← readTerm counts (lastWord words rest) rest
    let v ← combine counts ":" a b
    return (v, ⟨rest, by simp only [List.length_cons]; omega⟩)
  | "index" :: words => do
    let (a, ⟨rest, h⟩) ← readTerm counts "index" words
    let (b, ⟨rest, h⟩) ← readTerm counts (lastWord words rest) rest
    return (.number (index a.toText b.toText), ⟨rest, by simp only [List.length_cons]; omega⟩)
  | "substr" :: words => do
    let (a, ⟨rest, h⟩) ← readTerm counts "substr" words
    let (b, ⟨rest, h⟩) ← readTerm counts (lastWord words rest) rest
    let (c, ⟨rest, h⟩) ← readTerm counts (lastWord words rest) rest
    return (.text (part a.toText b c), ⟨rest, by simp only [List.length_cons]; omega⟩)
  | "(" :: words => do
    let (a, ⟨rest, h⟩) ← readLevel counts operators "(" words
    match rest, h with
    | [], _ => .error (.unclosed (lastWord words []))
    | ")" :: rest, h =>
      return (a, ⟨rest, by simp only [List.length_cons] at *; omega⟩)
    | word :: _, _ => .error (.wantsClose word)
  | ")" :: _ => .error .unexpectedClose
  | word :: rest => .ok (.text word, ⟨rest, length_lt_cons word rest⟩)
termination_by words => (words.length, 0)

def readLevel (counts : Bool) (levels : List (List String)) (before : String)
    (words : List String) : Except Fault (Value × Rest words) :=
  match levels with
  | [] => readTerm counts before words
  | operators :: tighter => do
    let (a, ⟨rest, h⟩) ← readLevel counts tighter before words
    let (v, ⟨rest, h⟩) ← readMore counts operators tighter a rest
    return (v, ⟨rest, by omega⟩)
termination_by (words.length, 2 * levels.length + 1)

/-- Reads what follows a value on a level of operators. -/
def readMore (counts : Bool) (operators : List String) (tighter : List (List String)) (a : Value)
    (words : List String) : Except Fault (Value × Left words) :=
  match words with
  | [] => .ok (a, ⟨[], by simp⟩)
  | word :: words =>
    if word ∈ operators then do
      let (b, ⟨rest, h⟩) ← readLevel (counts && needs word a) tighter word words
      let v ← combine counts word a b
      let (v, ⟨rest, h⟩) ← readMore counts operators tighter v rest
      return (v, ⟨rest, by simp only [List.length_cons]; omega⟩)
    else .ok (a, ⟨word :: words, by simp⟩)
termination_by (words.length, 0)

end

def value (words : List String) : Except Fault Value := do
  let (v, ⟨rest, _⟩) ← readLevel true operators "" words
  match rest with
  | [] => return v
  | word :: _ => throw (.unexpected word)

end Formula

/-- Works out a formula. The status tells whether the value counts as nothing. -/
def expr : Tool := fun s =>
  s.onlyArgument?.getD <|
    let words := if s.args.head? = some "--" then s.args.tail else s.args
    if words.isEmpty then s.misuse 2 "missing operand"
    else
      match Formula.value words with
      | .error f => s.fail 2 f.message
      | .ok v =>
        { s.print (v.toText ++ "\n") with status := .code (if v.isNull then 1 else 0) }

end Gutter.Shell.Tool
