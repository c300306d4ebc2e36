import Gutter.Shell.Number

/-!
# Expressions on numbers

The expressions between double parentheses: numbers of 64 bits, which wrap around, and variables
that can get new values.
-/

namespace Gutter.Shell

/-- What stands between two expressions. -/
inductive Operator where
  | times
  | divide
  | remainder
  | plus
  | minus
  | shiftLeft
  | shiftRight
  | less
  | lessEqual
  | greater
  | greaterEqual
  | equal
  | unequal
  | bitAnd
  | bitXor
  | bitOr
  | both
  | either
  deriving DecidableEq, Repr

/-- An expression on numbers. -/
inductive Expression where
  | number (n : Int64)
  | parameter (name : String)
  | negative (a : Expression)
  | complement (a : Expression)
  | opposite (a : Expression)
  | binary (o : Operator) (a b : Expression)
  | choice (condition a b : Expression)
  | assign (name : String) (o : Option Operator) (a : Expression)
  | missing (what : String)
  | lacking (a : Expression) (what : String)
  deriving Repr

namespace Expression

/-- Why an expression has no value. -/
inductive Problem where
  | wanted (what : String)
  | divisionByZero
  | noNumber (value : String)
  deriving DecidableEq, Repr

def Problem.message (expression : String) : Problem → String
  | .wanted what => "arithmetic expression: expecting " ++ what ++ ": \"" ++ expression ++ "\""
  | .divisionByZero => "arithmetic expression: division by zero: \"" ++ expression ++ "\""
  | .noNumber value => "Illegal number: " ++ value

/-! ## Reading -/

/-- What an expression consists of. -/
inductive Lexeme where
  | number (n : Int64)
  | name (s : String)
  | sign (s : String)
  | stray
  deriving DecidableEq, Repr

def signs : List String :=
  ["<<=", ">>=", "<<", ">>", "<=", ">=", "==", "!=", "&&", "||", "*=", "/=", "%=", "+=", "-=",
    "&=", "^=", "|=", "*", "/", "%", "+", "-", "<", ">", "&", "^", "|", "~", "!", "?", ":", "=",
    "(", ")"]

/-- What a text consists of. -/
def lexemes : (fuel : Nat) → List Char → List Lexeme
  | 0, _ => []
  | _, [] => []
  | fuel + 1, c :: cs =>
    if c ∈ [' ', '\t', '\n'] then lexemes fuel cs
    else if c.isDigit then
      let (n, rest) := Number.leadingNat (c :: cs)
      .number (.ofInt (Number.clamp n)) :: lexemes fuel rest
    else if c.isAlpha || c = '_' then
      let name := (c :: cs).takeWhile fun c => c.isAlphanum || c = '_'
      .name (String.ofList name) :: lexemes fuel ((c :: cs).drop name.length)
    else
      match signs.find? fun s => s.toList.isPrefixOf (c :: cs) with
      | some s => .sign s :: lexemes fuel ((c :: cs).drop s.length)
      | none => .stray :: lexemes fuel cs

def operators : List (String × Operator × Nat) :=
  [("*", .times, 10), ("/", .divide, 10), ("%", .remainder, 10), ("+", .plus, 9), ("-", .minus, 9),
    ("<<", .shiftLeft, 8), (">>", .shiftRight, 8), ("<", .less, 7), ("<=", .lessEqual, 7),
    (">", .greater, 7), (">=", .greaterEqual, 7), ("==", .equal, 6), ("!=", .unequal, 6),
    ("&", .bitAnd, 5), ("^", .bitXor, 4), ("|", .bitOr, 3), ("&&", .both, 2), ("||", .either, 1)]

def assignment? (s : String) : Option (Option Operator) :=
  if s = "=" then some none
  else
    operators.findSome? fun (x, o, strength) =>
      if s = x ++ "=" && strength ∉ [7, 6, 2, 1] then some (some o) else none

/-- An expression and what follows it; behind something that is not wanted nothing is read. -/
abbrev Reading := Expression × List Lexeme

mutual

def read : (fuel : Nat) → List Lexeme → Reading
  | 0, _ => (.missing "primary", [])
  | fuel + 1, ls =>
    match ls with
    | .name x :: .sign s :: rest =>
      match assignment? s with
      | some o => (read fuel rest).map (.assign x o) id
      | none => readChoice fuel ls
    | ls => readChoice fuel ls

def readChoice : (fuel : Nat) → List Lexeme → Reading
  | 0, _ => (.missing "primary", [])
  | fuel + 1, ls =>
    match readBinary fuel 1 ls with
    | (condition, .sign "?" :: rest) =>
      match read fuel rest with
      | (a, .sign ":" :: rest) => (readChoice fuel rest).map (.choice condition a) id
      | (a, _) => (.choice condition a (.missing "':'"), [])
    | result => result

def readBinary : (fuel : Nat) → (strength : Nat) → List Lexeme → Reading
  | 0, _, _ => (.missing "primary", [])
  | fuel + 1, strength, ls =>
    let (a, rest) := readPrimary fuel ls
    continueBinary fuel strength a rest

/-- What operators join to an expression. -/
def continueBinary : (fuel : Nat) → (strength : Nat) → Expression → List Lexeme → Reading
  | 0, _, a, _ => (.lacking a "primary", [])
  | fuel + 1, strength, a, ls =>
    match ls with
    | .sign s :: rest =>
      match operators.lookup s with
      | some (o, x) =>
        if strength ≤ x then
          let (b, rest) := readBinary fuel (x + 1) rest
          continueBinary fuel strength (.binary o a b) rest
        else (a, ls)
      | none => (a, ls)
    | ls => (a, ls)

/-- An expression at the front that has no operators between its parts. -/
def readPrimary : (fuel : Nat) → List Lexeme → Reading
  | 0, _ => (.missing "primary", [])
  | fuel + 1, ls =>
    match ls with
    | .number n :: rest => (.number n, rest)
    | .name x :: rest => (.parameter x, rest)
    | .sign "(" :: rest =>
      match read fuel rest with
      | (a, .sign ")" :: rest) => (a, rest)
      | (a, _) => (.lacking a "')'", [])
    | .sign "+" :: rest => readPrimary fuel rest
    | .sign "-" :: rest => (readPrimary fuel rest).map .negative id
    | .sign "~" :: rest => (readPrimary fuel rest).map .complement id
    | .sign "!" :: rest => (readPrimary fuel rest).map .opposite id
    | _ => (.missing "primary", [])

end

def ofText (s : String) : Expression :=
  let ls := lexemes (s.length + 1) s.toList
  match read (20 * (ls.length + 1)) ls with
  | (a, []) => a
  | (a, _) => .lacking a "EOF"

def wanted? : Expression → Option String
  | .number _ | .parameter _ => none
  | .negative a | .complement a | .opposite a | .assign _ _ a => a.wanted?
  | .binary _ a b => a.wanted? <|> b.wanted?
  | .choice condition a b => condition.wanted? <|> a.wanted? <|> b.wanted?
  | .missing what => some what
  | .lacking a what => a.wanted? <|> some what

/-! ## Values -/

def ofBool (b : Bool) : Int64 := if b then 1 else 0

/-- The value of two values with an operator between them. -/
def apply (o : Operator) (a b : Int64) : Except Problem Int64 :=
  match o with
  | .times => .ok (a * b)
  | .divide => if b = 0 then .error .divisionByZero else .ok (a / b)
  | .remainder => if b = 0 then .error .divisionByZero else .ok (a % b)
  | .plus => .ok (a + b)
  | .minus => .ok (a - b)
  | .shiftLeft => .ok (a <<< b)
  | .shiftRight => .ok (a >>> b)
  | .less => .ok (ofBool (a < b))
  | .lessEqual => .ok (ofBool (a ≤ b))
  | .greater => .ok (ofBool (b < a))
  | .greaterEqual => .ok (ofBool (b ≤ a))
  | .equal => .ok (ofBool (a = b))
  | .unequal => .ok (ofBool (a ≠ b))
  | .bitAnd => .ok (a &&& b)
  | .bitXor => .ok (a ^^^ b)
  | .bitOr => .ok (a ||| b)
  | .both => .ok (ofBool (a ≠ 0 && b ≠ 0))
  | .either => .ok (ofBool (a ≠ 0 || b ≠ 0))

abbrev Values := List (String × Int64)

def look (text : String → String) (x : String) : StateT Values (Except Problem) Int64 := do
  match (← get).lookup x with
  | some n => return n
  | none =>
    match Number.value? (text x) with
    | some n => return .ofInt n
    | none => throw (.noNumber (text x))

def pass (a : Expression) : StateT Values (Except Problem) Unit :=
  match a.wanted? with
  | none => return ()
  | some what => throw (.wanted what)

/-- The value of an expression, and the new values of variables. An expression is read as far as its
value is known, so that a fault in its writing counts after what goes wrong before it. -/
def value (text : String → String) : Expression → StateT Values (Except Problem) Int64
  | .number n => return n
  | .parameter x => look text x
  | .negative a => return -(← a.value text)
  | .complement a => return ~~~(← a.value text)
  | .opposite a => return ofBool ((← a.value text) = 0)
  | .binary .both a b => do
    if (← a.value text) = 0 then
      b.pass
      return 0
    else return ofBool ((← b.value text) ≠ 0)
  | .binary .either a b => do
    if (← a.value text) ≠ 0 then
      b.pass
      return 1
    else return ofBool ((← b.value text) ≠ 0)
  | .binary o a b => do
    let x ← a.value text
    let y ← b.value text
    apply o x y
  | .choice condition a b => do
    if (← condition.value text) ≠ 0 then
      let n ← a.value text
      b.pass
      return n
    else
      a.pass
      b.value text
  | .assign x o a => do
    let n ← a.value text
    let n ← match o with
      | none => pure n
      | some o => do
        let old ← look text x
        apply o old n
    modify fun s => (x, n) :: s
    return n
  | .missing what => throw (.wanted what)
  | .lacking a what => do
    let _ ← a.value text
    throw (.wanted what)

/-- The value of the expression that a text is, and the new values of variables in the order in
which they got them. -/
def evaluate (text : String → String) (expression : String) : Except Problem (Int64 × Values) := do
  let (n, news) ← ((ofText expression).value text).run []
  return (n, news.reverse)

end Expression

end Gutter.Shell
