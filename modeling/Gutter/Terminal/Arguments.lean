import Gutter.Path

/-!
# Arguments of the command line

The program has one subcommand, `check`. Options may stand before and after files; two dashes end
them, and what follows are arguments for the linter. An argument is noticed when it is met, but
stored only when the next one makes clear that it is complete, and until then its value is not
looked at.
-/

namespace Gutter

/-- What the command line asks for. The line of the cursor, counted from one, is in the first file.
-/
structure Arguments where
  verbose : Bool := false
  files : List Path := []
  linter : Option String := none
  config : Option Path := none
  cursorLine : Option UInt64 := none
  linterArgs : List String := []
  deriving DecidableEq, Repr

namespace Arguments

def cursor (a : Arguments) : UInt64 :=
  match a.cursorLine with
  | none => 0
  | some n => if n = 0 then 0 else n - 1

/-- Why there is nothing to do. -/
inductive Refusal where
  | missingArgument
  | missingSubcommand
  | unknownArgument
  | unknownSubcommand
  | repeatedOption
  | missingValue
  | badValue
  | surplusValue
  | help
  | helpInstead
  | version
  deriving DecidableEq, Repr

def Refusal.isWanted : Refusal → Bool
  | .help | .version => true
  | _ => false

/-- An option with a value. -/
inductive Setting where
  | linter
  | config
  | cursorLine
  deriving DecidableEq, Repr

/-- Something that is met but not stored. -/
inductive Pending where
  | setting (s : Setting) (value : Option String)
  | files (names : List String)
  | linterArgs (args : List String)
  deriving DecidableEq, Repr

/-- How far reading has come. -/
structure Reading where
  stored : Arguments := {}
  pending : Option Pending := none
  isPastDashes : Bool := false

/-- The number that a text spells: digits, perhaps after a plus sign. -/
def number? (s : String) : Option UInt64 :=
  let ds := match s.toList with
    | '+' :: ds => ds
    | ds => ds
  if ds.isEmpty || !ds.all Char.isDigit then none
  else
    let n := ds.foldl (fun n c => n * 10 + (c.toNat - '0'.toNat)) 0
    if n < UInt64.size then some (UInt64.ofNat n) else none

def path (s : String) : Except Refusal Path :=
  if s.isEmpty then .error .missingValue else .ok (.ofString s)

/-- Stores the value of an option. -/
def store (s : Setting) (value : String) (a : Arguments) : Except Refusal Arguments :=
  match s with
  | .linter =>
    if a.linter.isSome then .error .repeatedOption else .ok { a with linter := some value }
  | .config =>
    if a.config.isSome then .error .repeatedOption
    else do return { a with config := some (← path value) }
  | .cursorLine =>
    if a.cursorLine.isSome then .error .repeatedOption
    else
      match number? value with
      | some n => .ok { a with cursorLine := some n }
      | none => .error .badValue

/-- Stores what is met. -/
def settle (r : Reading) : Except Refusal Reading := do
  let stored ← match r.pending with
    | none => .ok r.stored
    | some (.setting _ none) => .error .missingValue
    | some (.setting s (some value)) => store s value r.stored
    | some (.files names) => do
      let paths ← names.mapM path
      .ok { r.stored with files := r.stored.files ++ paths }
    | some (.linterArgs args) =>
      .ok { r.stored with linterArgs := r.stored.linterArgs ++ args }
  return { r with stored, pending := none }

def addVerbose (r : Reading) : Except Refusal Reading := do
  let r ← settle r
  if r.stored.verbose then .error .repeatedOption
  else .ok { r with stored := { r.stored with verbose := true } }

def askHelp (r : Reading) : Except Refusal Reading := do
  let _ ← settle r
  .error .help

def addSetting (s : Setting) (value : Option String) (r : Reading) : Except Refusal Reading := do
  let r ← settle r
  match value with
  | some value => return { r with stored := ← store s value r.stored }
  | none => return { r with pending := some (.setting s none) }

def splitValue (cs : List Char) : String × Option String :=
  let name := String.ofList (cs.takeWhile (· ≠ '='))
  match cs.dropWhile (· ≠ '=') with
  | [] => (name, none)
  | _ :: value => (name, some (String.ofList value))

/-- An option by its long name. -/
def addLong (cs : List Char) (r : Reading) : Except Refusal Reading :=
  match splitValue cs with
  | ("verbose", none) => addVerbose r
  | ("help", none) => askHelp r
  | ("verbose", some _) | ("help", some _) => .error .surplusValue
  | ("linter", value) => addSetting .linter value r
  | ("config", value) => addSetting .config value r
  | ("cursor-line", value) => addSetting .cursorLine value r
  | _ => .error .unknownArgument

/-- Options by their short names. The first one that takes a value takes all the rest. -/
def addShort : List Char → Reading → Except Refusal Reading
  | [], r => .ok r
  | 'v' :: cs, r => do addShort cs (← addVerbose r)
  | 'h' :: _, r => askHelp r
  | 'c' :: [], r => addSetting .config none r
  | 'c' :: '=' :: cs, r => addSetting .config (some (String.ofList cs)) r
  | 'c' :: cs, r => addSetting .config (some (String.ofList cs)) r
  | _ :: _, _ => .error .unknownArgument

/-- A word that is no option. -/
def addWord (word : String) (r : Reading) : Except Refusal Reading :=
  match r.pending with
  | some (.setting s none) => .ok { r with pending := some (.setting s (some word)) }
  | some (.files names) => .ok { r with pending := some (.files (names ++ [word])) }
  | _ => do
    let r ← settle r
    return { r with pending := some (.files [word]) }

/-- A word after the two dashes. -/
def addLinterArg (word : String) (r : Reading) : Except Refusal Reading :=
  match r.pending with
  | some (.linterArgs args) => .ok { r with pending := some (.linterArgs (args ++ [word])) }
  | _ => do
    let r ← settle r
    return { r with pending := some (.linterArgs [word]) }

/-- One word after the subcommand. -/
def add (r : Reading) (word : String) : Except Refusal Reading :=
  if r.isPastDashes then addLinterArg word r
  else
    match word.toList with
    | ['-', '-'] => .ok { r with isPastDashes := true }
    | '-' :: '-' :: cs => addLong cs r
    | '-' :: c :: cs => addShort (c :: cs) r
    | _ => addWord word r

def ofCheckWords (words : List String) : Except Refusal Arguments := do
  let r ← settle (← words.foldlM add {})
  if r.stored.files.isEmpty then .error .missingArgument else .ok r.stored

def ofHelpWords : List String → Refusal
  | [] | ["check"] | ["help"] => .help
  | _ => .unknownSubcommand

/-- Short options before the subcommand; the answer is whether details are asked for. -/
def leadingShort : List Char → (verbose : Bool) → Except Refusal Bool
  | [], verbose => .ok verbose
  | 'v' :: cs, verbose => if verbose then .error .repeatedOption else leadingShort cs true
  | 'h' :: _, _ => .error .help
  | 'V' :: _, _ => .error .version
  | _ :: _, _ => .error .unknownArgument

/-- A long option before the subcommand; the answer is whether details are asked for. -/
def leadingLong (cs : List Char) (verbose : Bool) : Except Refusal Bool :=
  match splitValue cs with
  | ("verbose", none) => if verbose then .error .repeatedOption else .ok true
  | ("help", none) => .error .help
  | ("version", none) => .error .version
  | ("verbose", some _) | ("help", some _) | ("version", some _) => .error .surplusValue
  | _ => .error .unknownArgument

/-- All words, of which the first ones may have asked for details. -/
def ofWordsFrom (verbose : Bool) : List String → Except Refusal Arguments
  | [] => .error (if verbose then .missingSubcommand else .helpInstead)
  | "check" :: rest => do
    let a ← ofCheckWords rest
    return { a with verbose := a.verbose || verbose }
  | "help" :: rest => .error (ofHelpWords rest)
  | word :: rest => do
    match word.toList with
    | ['-', '-'] =>
      match rest with
      | [] => ofWordsFrom verbose []
      | next :: _ =>
        .error (if next ∈ ["check", "help"] then .unknownArgument else .unknownSubcommand)
    | '-' :: '-' :: cs => ofWordsFrom (← leadingLong cs verbose) rest
    | '-' :: c :: cs => ofWordsFrom (← leadingShort (c :: cs) verbose) rest
    | _ => .error .unknownSubcommand

def ofWords (words : List String) : Except Refusal Arguments := ofWordsFrom false words

end Arguments

end Gutter
