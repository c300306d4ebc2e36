import Gutter.Files
import Gutter.Shell.Number
import Gutter.Text.Octets

/-!
# Conditions

Conditions on texts, numbers and files, each given as a list of words.
-/

namespace Gutter.Shell.Condition

def unaryOperators : List String :=
  ["-r", "-w", "-x", "-e", "-f", "-d", "-c", "-b", "-p", "-u", "-g", "-k", "-s", "-t", "-z", "-n",
    "-h", "-O", "-G", "-L", "-S"]

def binaryOperators : List String :=
  ["=", "!=", "<", ">", "-eq", "-ne", "-ge", "-gt", "-le", "-lt", "-nt", "-ot", "-ef"]

/-- What a word stands for. -/
inductive Lexeme where
  | finish
  | operand
  | unary
  | binary
  | negation
  | both
  | either
  | opening
  | closing
  deriving DecidableEq, Repr

/-- What the first of some words stands for. An operator before a word is a word itself where no
other word follows, or where what follows can only be an operator between two words. -/
def lexeme : List String → Lexeme
  | [] => .finish
  | w :: ws =>
    if w ∈ unaryOperators then
      match ws with
      | [] => .operand
      | [_] => .unary
      | next :: _ => if next ∈ binaryOperators then .operand else .unary
    else if w ∈ binaryOperators then .binary
    else
      match w with
      | "!" => .negation
      | "-a" => .both
      | "-o" => .either
      | "(" => if ws.isEmpty then .operand else .opening
      | ")" => .closing
      | _ => .operand

/-- What is asked of a path. -/
structure World where
  files : Files
  directory : Location
  streams : Nat → Option Node := fun _ => none

namespace World

/-- What a path names; a link at its end is followed if that is said. -/
def find (world : World) (followsLast : Bool) (path : String) : Option (Location × Node) := do
  let (l, node) ←
    (world.files.lookupAs followsLast world.directory ⟨Text.Octets.toBytes path⟩).toOption
  match node with
  | .stream n => return (l, ← world.streams n)
  | node => return (l, node)

/-- Whether an operator on paths holds. The user may read and write everything. -/
def holds (world : World) (operator path : String) : Bool :=
  match world.find (operator ≠ "-h" && operator ≠ "-L") path with
  | none => false
  | some (l, node) =>
    let mode := world.files.mode l
    match operator, node with
    | "-e", _ | "-r", _ | "-w", _ | "-O", _ | "-G", _ => true
    | "-x", .directory => true
    | "-x", _ => mode &&& 0o111 ≠ 0
    | "-f", .file _ | "-f", .program _ => true
    | "-d", .directory => true
    | "-c", .device _ => true
    | "-p", .stream _ => true
    | "-h", .link _ | "-L", .link _ => true
    | "-s", .file contents => !contents.isEmpty
    | "-s", .directory | "-s", .program _ => true
    | "-u", _ => mode &&& 0o4000 ≠ 0
    | "-g", _ => mode &&& 0o2000 ≠ 0
    | "-k", _ => mode &&& 0o1000 ≠ 0
    | _, _ => false

/-- Whether the file of a path is newer than that of another one. A file whose time was not set is
newer than one whose time was. -/
def isNewer (world : World) (a b : String) : Bool :=
  match world.find true a, world.find true b with
  | some (l, _), some (m, _) =>
    match world.files.times.lookup l, world.files.times.lookup m with
    | some t, some u => u < t
    | none, some _ => true
    | _, none => false
  | _, _ => false

def isSame (world : World) (a b : String) : Bool :=
  (world.find true a).any fun x => (world.find true b).any fun y => x.1 = y.1

end World

/-- A condition is looked at with the words that are left; it fails with a complaint. -/
abbrev Check := StateT (List String) (Except String)

def skip (n : Nat) : Check Unit := modify (List.drop n)

def number (s : String) : Except String Int :=
  match Number.decimal? s with
  | some n => .ok n
  | none => .error ("Illegal number: " ++ s)

/-- Whether an operator between two words holds. -/
def compare (world : World) (a operator b : String) : Except String Bool :=
  let numbers (f : Int → Int → Bool) : Except String Bool := do
    return f (← number a) (← number b)
  match operator with
  | "=" => .ok (a = b)
  | "!=" => .ok (a ≠ b)
  | "<" => .ok (a < b)
  | ">" => .ok (b < a)
  | "-eq" => numbers fun x y => x = y
  | "-ne" => numbers fun x y => x ≠ y
  | "-lt" => numbers fun x y => x < y
  | "-le" => numbers fun x y => x ≤ y
  | "-gt" => numbers fun x y => y < x
  | "-ge" => numbers fun x y => y ≤ x
  | "-ef" => .ok (world.isSame a b)
  | "-nt" => .ok (world.isNewer a b)
  | "-ot" => .ok (world.isNewer b a)
  | _ => .ok false

mutual

def checkAny (world : World) : (fuel : Nat) → Lexeme → Check Bool
  | 0, _ => return false
  | fuel + 1, l => do
    let a ← checkAll world fuel l
    if lexeme ((← get).drop 1) = .either then
      skip 2
      let b ← checkAny world fuel (lexeme (← get))
      return a || b
    else return a

def checkAll (world : World) : (fuel : Nat) → Lexeme → Check Bool
  | 0, _ => return false
  | fuel + 1, l => do
    let a ← checkNegated world fuel l
    if lexeme ((← get).drop 1) = .both then
      skip 2
      let b ← checkAll world fuel (lexeme (← get))
      return a && b
    else return a

def checkNegated (world : World) : (fuel : Nat) → Lexeme → Check Bool
  | 0, _ => return false
  | fuel + 1, l => do
    if l = .negation then
      let next := lexeme ((← get).drop 1)
      if next ≠ .finish then skip 1
      return !(← checkNegated world fuel next)
    else checkPrimary world fuel l

/-- A condition without any other operators, or one in parentheses. -/
def checkPrimary (world : World) : (fuel : Nat) → Lexeme → Check Bool
  | 0, _ => return false
  | fuel + 1, l => do
    match l with
    | .finish => return false
    | .opening =>
      skip 1
      let next := lexeme (← get)
      if next = .closing then return false
      else
        let a ← checkAny world fuel next
        skip 1
        if lexeme (← get) = .closing then return a else throw "closing paren expected"
    | l =>
      let words ← get
      match l, words with
      | .unary, operator :: word :: _ =>
        skip 1
        match operator with
        | "-z" => return word.isEmpty
        | "-n" => return !word.isEmpty
        | "-t" =>
          let _ ← number word
          return false
        | operator => return world.holds operator word
      | .unary, [operator] => throw (operator ++ ": argument expected")
      | _, a :: operator :: rest =>
        if lexeme (operator :: rest) = .binary then
          match rest with
          | [] => throw (operator ++ ": argument expected")
          | b :: _ =>
            skip 2
            compare world a operator b
        else return !a.isEmpty
      | _, words => return words.any (!·.isEmpty)

end

/-- Whether all words make one condition that holds; `l` is what the first of them stands for. -/
def checkWhole (world : World) (words : List String) (l : Lexeme) : Except String Bool := do
  let (b, rest) ← (checkAny world (4 * words.length + 4) l).run words
  match rest with
  | word :: _ :: _ =>
    .error ((if word.isEmpty then "" else word ++ ": ") ++ "unexpected operator")
  | _ => return b

/-- Whether the condition that some words make holds, apart from signs of negation in front of up to
three words, and whether there are any such signs. -/
def checkPlain (world : World) : List String → Except String (Bool × Bool)
  | [] => return (false, false)
  | word :: words => do
    let all := word :: words
    let n := all.length
    if n = 3 && words.head?.any (· ∈ binaryOperators) then
      return (← checkWhole world all .operand, false)
    else if (n = 3 || n = 4) && word = "(" && words.getLast? = some ")" then
      return (← checkWhole world words.dropLast (lexeme words.dropLast), false)
    else if (n = 3 || n = 4) && word = "!" then
      return ((← checkPlain world words).1, true)
    else return (← checkWhole world all (lexeme all), false)

def check (world : World) (words : List String) : Except String Bool := do
  let (b, isNegated) ← checkPlain world words
  return b != isNegated

end Gutter.Shell.Condition
