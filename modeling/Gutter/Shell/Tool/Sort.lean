import Gutter.Shell.Order
import Gutter.Shell.Tool

/-!
# Programs for sorted texts

Sorting lines, and what can be done with lines that are sorted.
-/

namespace Gutter.Shell.Tool

/-! ## Keys -/

/-- Which bytes count when texts are compared. -/
inductive Counting where
  | all
  | dictionary
  | printed
  deriving DecidableEq

/-- What is compared of lines, and how. A place is a number of fields and a number of characters
after them. -/
structure SortKey where
  start : Nat × Nat := (0, 0)
  finish : Option (Nat × Nat) := none
  skipsBlanksAtStart : Bool := false
  skipsBlanksAtFinish : Bool := false
  counting : Counting := .all
  foldsCase : Bool := false
  orders : List Char := []
  isReversed : Bool := false

namespace SortKey

/-- Whether nothing is said on how to compare; the direction does not count. -/
def isDefault (k : SortKey) : Bool :=
  !k.skipsBlanksAtStart && !k.skipsBlanksAtFinish && k.counting = .all && !k.foldsCase &&
    k.orders.isEmpty

def inherit (general k : SortKey) : SortKey :=
  if k.isDefault && !k.isReversed then { general with start := k.start, finish := k.finish } else k

/-- Adds what a letter says; `atStart` and `atFinish` are the places that it is about. -/
def add? (atStart atFinish : Bool) (c : Char) (k : SortKey) : Option SortKey :=
  match c with
  | 'b' =>
    some { k with
      skipsBlanksAtStart := k.skipsBlanksAtStart || atStart
      skipsBlanksAtFinish := k.skipsBlanksAtFinish || atFinish }
  | 'd' => some { k with counting := .dictionary }
  | 'f' => some { k with foldsCase := true }
  | 'i' => some { k with counting := if k.counting = .dictionary then .dictionary else .printed }
  | 'r' => some { k with isReversed := true }
  | 'g' | 'h' | 'M' | 'n' | 'R' | 'V' => some { k with orders := c :: k.orders }
  | _ => none

/-- The letters of a key that cannot stand together, if there are any. -/
def conflict? (k : SortKey) : Option String :=
  let exclusive := (['g', 'h', 'M', 'n'].filter (· ∈ k.orders)).length
  let others : Bool := 'V' ∈ k.orders || 'R' ∈ k.orders || k.counting ≠ .all
  if 1 < exclusive + (if others then 1 else 0) then
    let present (c : Char) : Bool := match c with
      | 'd' => k.counting = .dictionary
      | 'i' => k.counting = .printed
      | 'f' => k.foldsCase
      | c => c ∈ k.orders
    some (String.ofList (['d', 'f', 'g', 'h', 'i', 'M', 'n', 'R', 'V'].filter present))
  else none

def readLetters (atStart atFinish : Bool) : List Char → SortKey → SortKey × List Char
  | [], k => (k, [])
  | c :: cs, k =>
    match k.add? atStart atFinish c with
    | some k => readLetters atStart atFinish cs k
    | none => (k, c :: cs)

def readCount (role : String) (cs : List Char) : Except String (Nat × List Char) :=
  let body := cs.dropWhile Number.isBlank
  let body := if body.head? = some '+' then body.tail else body
  let ds := Number.leadingDigits 10 body
  if ds.isEmpty then
    .error ("invalid number " ++ role ++ ": invalid count at start of " ++
      Quoting.word (String.ofList cs))
  else .ok (min (Number.ofDigits 10 ds) UInt32.size, body.drop ds.length)

/-- Reads a place: a field, and perhaps a character in it. -/
def readPlace (spec role : String) (least : Nat) (cs : List Char) :
    Except String ((Nat × Option Nat) × List Char) := do
  let bad (text : String) : String :=
    text ++ ": invalid field specification " ++ Quoting.word spec
  let (field, rest) ← readCount role cs
  if field = 0 then throw (bad "field number is zero")
  else
    match rest with
    | '.' :: rest =>
      let (char, rest) ← readCount "after '.'" rest
      if char < least then throw (bad "character offset is zero")
      else return ((field, some char), rest)
    | rest => return ((field, none), rest)

/-- The key that a text spells. -/
def ofText (spec : String) : Except String SortKey := do
  let ((field, char), rest) ← readPlace spec "at field start" 1 spec.toList
  let (k, rest) := readLetters true false rest { start := (field - 1, char.getD 1 - 1) }
  let (k, rest) ← match rest with
    | ',' :: rest => do
      let ((field, char), rest) ← readPlace spec "after ','" 0 rest
      let finish := (field, char.getD 0)
      pure (readLetters false true rest { k with finish })
    | rest => pure (k, rest)
  if rest.isEmpty then return k
  else throw ("stray character in field spec: invalid field specification " ++ Quoting.word spec)

/-- A line without some fields at its front, which are separated by a byte or start with blanks;
`keepsLast` says that the separator behind the last of them stays. -/
def dropFields (separator : Option UInt8) (keepsLast : Bool) : Nat → List UInt8 → List UInt8
  | 0, row => row
  | n + 1, row =>
    match separator with
    | some b =>
      let rest := row.dropWhile (· ≠ b)
      dropFields separator keepsLast n (if n = 0 && keepsLast then rest else rest.tail)
    | none =>
      dropFields separator keepsLast n
        ((row.dropWhile Order.isBlank).dropWhile fun b => !Order.isBlank b)

/-- The part of a line that is compared. -/
def text (separator : Option UInt8) (k : SortKey) (row : List UInt8) : List UInt8 :=
  let skip (skips : Bool) (row : List UInt8) : List UInt8 :=
    if skips then row.dropWhile Order.isBlank else row
  let start := (skip k.skipsBlanksAtStart (dropFields separator false k.start.1 row)).drop k.start.2
  match k.finish with
  | none => start
  | some (field, 0) =>
    start.take (start.length - (dropFields separator true field row).length)
  | some (field, char) =>
    let last := skip k.skipsBlanksAtFinish (dropFields separator false (field - 1) row)
    start.take (start.length - (last.drop char).length)

/-- Compares texts as the key says. -/
def compare (k : SortKey) : Order.Comparison := fun a b =>
  let counts (b : UInt8) : Bool := match k.counting with
    | .all => true
    | .dictionary => Order.isBlank b || Order.isDigit b || Order.isAlpha b
    | .printed => 0x20 ≤ b && b < 0x7F
  let prepare (text : List UInt8) : List UInt8 :=
    let text := text.filter counts
    if k.foldsCase then text.map Order.upper else text
  let order : Order.Comparison :=
    if 'n' ∈ k.orders then Order.numbers
    else if 'g' ∈ k.orders then Order.quantities
    else if 'h' ∈ k.orders then Order.sizes
    else if 'M' ∈ k.orders then Order.months
    else if 'V' ∈ k.orders then Order.versions
    else Order.bytes
  let result := order (prepare a) (prepare b)
  if k.isReversed then result.swap else result

end SortKey

/-! ## Sorting -/

/-- How lines are sorted. -/
structure SortPlan where
  keys : List SortKey
  separator : Option UInt8
  isReversed : Bool
  keysOnly : Bool

namespace SortPlan

abbrev Row := List UInt8 × List (List UInt8)

def row (plan : SortPlan) (line : List UInt8) : Row :=
  (line, plan.keys.map fun k => k.text plan.separator line)

def compare (plan : SortPlan) (a b : Row) : Ordering :=
  let byKeys := (plan.keys.zip (a.2.zip b.2)).foldl
    (fun result (k, x, y) => result.then (k.compare x y)) .eq
  if byKeys ≠ .eq || (!plan.keys.isEmpty && plan.keysOnly) then byKeys
  else
    let whole := Order.bytes a.1 b.1
    if plan.isReversed then whole.swap else whole

/-- Merges two lists of lines; of equal lines those of the first list come first. -/
def merge (plan : SortPlan) (a b : List Row) : List Row :=
  a.merge b fun x y => plan.compare x y ≠ .gt

def distinct (plan : SortPlan) (rows : List Row) : List Row :=
  (rows.foldl (fun done row =>
    match done with
    | last :: _ => if plan.compare last row = .eq then done else row :: done
    | [] => [row]) []).reverse

def disorder? (plan : SortPlan) (isStrict : Bool) : (number : Nat) → List Row →
    Option (Nat × List UInt8)
  | number, a :: b :: rows =>
    let order := plan.compare a b
    if order = .gt || (isStrict && order = .eq) then some (number + 1, b.1)
    else disorder? plan isStrict (number + 1) (b :: rows)
  | _, _ => none

/-- How lines are sorted by some options, or why they cannot be. -/
def ofOptions (o : Options) : Except String SortPlan := do
  let letters := o.given.flatMap fun x =>
    if x.1 = "sort" then x.2.toList
    else if x.1.length = 1 && x.1 ∈ ["b", "d", "f", "g", "h", "i", "M", "n", "R", "r", "V"] then
      x.1.toList
    else []
  let general := (SortKey.readLetters true true letters {}).1
  let keys ← (o.given.filter (·.1 = "k")).mapM fun x => SortKey.ofText x.2
  let separators ← (o.given.filter (·.1 = "t")).mapM fun x =>
    match x.2.toList with
    | [] => throw "empty tab"
    | [c] => pure (UInt8.ofNat c.toNat)
    | ['\\', '0'] => pure 0
    | _ => throw ("multi-character tab " ++ Quoting.word x.2)
  if separators.eraseDups.length > 1 then throw "incompatible tabs"
  else
    let keys := keys.map (SortKey.inherit general)
    let keys := if keys.isEmpty && !general.isDefault then [general] else keys
    match keys.findSome? SortKey.conflict? with
    | some letters => throw ("options '-" ++ letters ++ "' are incompatible")
    | none =>
      return { keys, separator := separators.head?, isReversed := general.isReversed,
               keysOnly := o.has "u" || o.has "s" }

end SortPlan

/-- Where sorting and checking take lines from and put them. -/
structure SortErrand where
  plan : SortPlan
  terminator : UInt8
  check : Option Bool
  merges : Bool
  isUnique : Bool
  output : Option String
  sources : List Supply.Source

namespace SortErrand

/-- The options with those that have words for letters replaced by the letters. -/
def resolve (x : String × String) : Except Refusal (String × String) :=
  let orders := [("general-numeric", "g"), ("human-numeric", "h"), ("month", "M"),
    ("numeric", "n"), ("random", "R"), ("version", "V")]
  let ways := [["quiet", "silent"], ["diagnose-first"]]
  let hint (e : String) : Refusal := { text := e, hasHint := true }
  match x with
  | ("sort", word) => do
    let name ← (Options.choice "--sort" (orders.map fun y => [y.1]) word).mapError hint
    return ("sort", (orders.lookup name).getD "")
  | ("check", "") => .ok ("c", "")
  | ("check", word) => do
    let way ← (Options.choice "--check" ways word).mapError hint
    return (if way = "quiet" then "C" else "c", "")
  | x => .ok x

/-- What is asked for by some options. -/
def ofOptions (o : Options) (s : Supply) : Except Refusal SortErrand := do
  let o := { o with given := ← o.given.mapM resolve }
  let outputs := ((o.given.filter (·.1 = "o")).map Prod.snd).eraseDups
  let plan ← (SortPlan.ofOptions o).mapError fun text => { text }
  if outputs.length > 1 then throw { text := "multiple output files specified" }
  let names ← namesFrom o s fun file e =>
    "open failed: " ++ Quoting.plainName file ++ ": " ++ e.reason
  let check := if o.has "c" then some true else if o.has "C" then some false else none
  let letter := if o.has "c" then "c" else "C"
  if o.has "c" && o.has "C" then throw { text := "options '-cC' are incompatible" }
  else
    match check, names, outputs with
    | some _, _ :: name :: _, _ =>
      throw { text := "extra operand " ++ Quoting.word name ++ " not allowed with -" ++ letter }
    | some _, _, _ :: _ => throw { text := "options '-" ++ letter ++ "o' are incompatible" }
    | _, _, _ =>
      return { plan, check, terminator := if o.has "z" then 0 else 0x0A, merges := o.has "m",
               isUnique := o.has "u", output := outputs.head?, sources := s.sources names }

/-- Why a source cannot be used, if it cannot; files that are not there are noticed first. -/
def unread? (e : SortErrand) : Option String :=
  let problem (isEarly : Bool) (x : Supply.Source) : Option String :=
    match x.contents with
    | .ok _ => none
    | .error reason =>
      let isLate := x.isInput || reason = .isDirectory
      if isEarly && isLate then none
      else some ((if isLate then "read failed: "
          else if e.check.isSome then "open failed: " else "cannot read: ") ++
        Quoting.plainName x.name ++ ": " ++ reason.reason)
  e.sources.findSome? (problem true) <|> e.sources.findSome? (problem false)

def rows (e : SortErrand) (x : Supply.Source) : List SortPlan.Row :=
  (recordsOf e.terminator x.bytes).map e.plan.row

def sorted (e : SortErrand) : List SortPlan.Row :=
  let parts := e.sources.map e.rows
  let all := if e.merges then parts.foldl e.plan.merge []
    else parts.flatten.mergeSort fun a b => e.plan.compare a b ≠ .gt
  if e.isUnique then e.plan.distinct all else all

def disorder? (e : SortErrand) : Option String :=
  e.sources.findSome? fun x =>
    (e.plan.disorder? e.isUnique 1 (e.rows x)).map fun (number, line) =>
      Quoting.plainName x.name ++ ":" ++ toString number ++ ": disorder: " ++
        Text.Octets.ofBytes line

/-- Does what is asked for. -/
def run (e : SortErrand) (s : Supply) : Ending :=
  let consumed := if e.sources.any Supply.Source.isInput then s.inputBytes.length else 0
  match e.unread?, e.check with
  | some text, _ => s.fail 2 text
  | none, some isLoud =>
    match e.disorder? with
    | none => { s.finish 0 with consumed }
    | some text => { (if isLoud then s.fail 1 text else s.finish 1) with consumed }
  | none, none =>
    let text := ofRecords e.terminator (e.sorted.map Prod.fst)
    let p := { Progress.start s with consumed }
    match e.output with
    | none => (p.write 1 text).ending
    | some name =>
      match s.store name false text p with
      | .ok p => p.ending
      | .error reason =>
        s.fail 2 ("open failed: " ++ Quoting.plainName name ++ ": " ++ reason.reason)

end SortErrand

/-- Sorts, merges or checks the lines of files. -/
def sort : Tool := fun s =>
  let table : OptionTable :=
    { letters := "bcCdfghik:mMno:rRsS:t:T:uVy:z"
      names := [("ignore-leading-blanks", .nothing, "b"), ("check", .perhaps, "check"),
        ("compress-program", .value, "compress"), ("debug", .nothing, "debug"),
        ("dictionary-order", .nothing, "d"), ("ignore-case", .nothing, "f"),
        ("files0-from", .value, "from"), ("general-numeric-sort", .nothing, "g"),
        ("ignore-nonprinting", .nothing, "i"), ("key", .value, "k"), ("merge", .nothing, "m"),
        ("month-sort", .nothing, "M"), ("numeric-sort", .nothing, "n"),
        ("human-numeric-sort", .nothing, "h"), ("version-sort", .nothing, "V"),
        ("random-sort", .nothing, "R"), ("random-source", .value, "random"),
        ("sort", .value, "sort"), ("output", .value, "o"), ("reverse", .nothing, "r"),
        ("stable", .nothing, "s"), ("batch-size", .value, "batch"), ("buffer-size", .value, "S"),
        ("field-separator", .value, "t"), ("temporary-directory", .value, "T"),
        ("unique", .nothing, "u"), ("zero-terminated", .nothing, "z"),
        ("parallel", .value, "parallel")]
      usage := "[OPTION]... [FILE]..." }
  s.withOptions table 2 fun o =>
    match SortErrand.ofOptions o s with
    | .error r => s.refuse 2 r
    | .ok e => e.run s

/-! ## Equal lines -/

/-- What stands between groups of equal lines. -/
inductive Grouping where
  | none
  | before
  | after
  | between
  | around
  deriving DecidableEq

namespace Grouping

def ofText : String → Grouping
  | "prepend" => .before
  | "append" => .after
  | "separate" => .between
  | "both" => .around
  | _ => .none

def join (g : Grouping) (terminator : UInt8) (groups : List (List UInt8)) : List UInt8 :=
  let mark := [terminator]
  match g with
  | .none => groups.flatten
  | .before => groups.flatMap (mark ++ ·)
  | .after => groups.flatMap (· ++ mark)
  | .between => (groups.intersperse mark).flatten
  | .around => if groups.isEmpty then [] else mark ++ groups.flatMap (· ++ mark)

end Grouping

def groupLines (same : List UInt8 → List UInt8 → Bool) (rows : List (List UInt8)) :
    List (List (List UInt8)) := rows.splitBy same

def withSkips (args : List String) : List String :=
  let (front, back) := (args.takeWhile (· ≠ "--"), args.dropWhile (· ≠ "--"))
  front.map (fun arg =>
    match arg.toList with
    | sign :: c :: cs =>
      if !(c :: cs).all Char.isDigit then arg
      else if sign = '-' then "-f" ++ String.ofList (c :: cs)
      else if sign = '+' then "-s" ++ String.ofList (c :: cs)
      else arg
    | _ => arg) ++ back

/-- How lines are compared and which of them are shown. -/
structure UniqPlan where
  skippedFields : Nat
  skippedChars : Nat
  limit : Option Nat
  foldsCase : Bool
  grouping : Grouping
  repeated : Option Grouping
  counts : Bool
  showsSingle : Bool
  showsFirst : Bool
  terminator : UInt8

namespace UniqPlan

/-- What is asked for by some options. -/
def ofOptions (o : Options) : Except Refusal UniqPlan := do
  let number (key purpose : String) : Except Refusal (Option Nat) :=
    match o.value? key with
    | none => .ok none
    | some text =>
      match Number.size? "" text with
      | .ok n => .ok (some n)
      | .error .tooLarge => .ok (some (UInt64.size - 1))
      | .error .invalid => .error { text := text ++ ": invalid number of " ++ purpose }
  let way (key option start : String) (ways : List String) : Except Refusal (Option Grouping) :=
    match o.value? key with
    | none => .ok none
    | some text =>
      ((Options.choice option (ways.map fun w => [w]) (if text.isEmpty then start else text)).map
        fun word => some (Grouping.ofText word)).mapError fun text => { text, hasHint := true }
  let skippedFields := (← number "f" "fields to skip").getD 0
  let skippedChars := (← number "s" "bytes to skip").getD 0
  let limit ← number "w" "bytes to compare"
  let repeated ← way "D" "--all-repeated" "none" ["none", "prepend", "separate"]
  let grouping ← way "group" "--group" "separate" ["prepend", "append", "separate", "both"]
  match o.words with
  | _ :: _ :: word :: _ => throw { text := "extra operand " ++ Quoting.word word, hasHint := true }
  | _ =>
    if grouping.isSome && ["c", "d", "D", "u"].any o.has then
      throw { text := "--group is mutually exclusive with -c/-d/-D/-u", hasHint := true }
    else if o.has "D" && o.has "c" then
      throw { text := "printing all duplicated lines and repeat counts is meaningless",
              hasHint := true }
    else
      return { skippedFields, skippedChars, limit, repeated, grouping := grouping.getD .none,
               foldsCase := o.has "i", counts := o.has "c",
               showsSingle := !o.has "d" && !o.has "D", showsFirst := !o.has "u",
               terminator := if o.has "z" then 0 else 0x0A }

def key (plan : UniqPlan) (row : List UInt8) : List UInt8 :=
  let text := (SortKey.dropFields none false plan.skippedFields row).drop plan.skippedChars
  let text := plan.limit.elim text text.take
  if plan.foldsCase then text.map Order.upper else text

/-- What is shown of a text. -/
def apply (plan : UniqPlan) (text : List UInt8) : List UInt8 :=
  let rows := recordsOf plan.terminator text
  let groups := groupLines (fun a b => plan.key a = plan.key b) rows
  let all (rows : List (List UInt8)) : List UInt8 := ofRecords plan.terminator rows
  if plan.grouping ≠ .none then plan.grouping.join plan.terminator (groups.map all)
  else
    match plan.repeated with
    | some grouping =>
      grouping.join plan.terminator ((groups.filter fun rows => rows.length > 1).map fun rows =>
        all (if plan.showsFirst then rows else rows.dropLast))
    | none =>
      groups.flatMap fun rows =>
        let count := if plan.counts then Text.Octets.toBytes (column 7 rows.length ++ " ") else []
        if if rows.length = 1 then plan.showsSingle else plan.showsFirst then
          count ++ all (rows.take 1)
        else []

end UniqPlan

/-- Leaves out lines that are like the ones before them, or shows only those. -/
def uniq : Tool := fun s =>
  let table : OptionTable :=
    { letters := "cdDf:is:uw:z"
      names := [("count", .nothing, "c"), ("repeated", .nothing, "d"),
        ("all-repeated", .perhaps, "D"), ("group", .perhaps, "group"),
        ("ignore-case", .nothing, "i"), ("unique", .nothing, "u"), ("skip-fields", .value, "f"),
        ("skip-chars", .value, "s"), ("check-chars", .value, "w"),
        ("zero-terminated", .nothing, "z")]
      usage := "[OPTION]... [INPUT [OUTPUT]]" }
  let s := { s with args := withSkips s.args }
  s.withOptions table 1 fun o =>
    let name := o.words.headD "-"
    let x := (s.sources [name]).headD { name, contents := .ok [] }
    match UniqPlan.ofOptions o, x.contents with
    | .error r, _ => s.refuse 1 r
    | _, .error .isDirectory => s.fail 1 ("error reading " ++ Quoting.name name ++ ": Is a directory")
    | _, .error e => s.fail 1 (Quoting.plainName name ++ ": " ++ e.reason)
    | .ok plan, .ok bytes =>
      let text := plan.apply bytes
      let p := { Progress.start s with consumed := if x.isInput then s.inputBytes.length else 0 }
      match o.words[1]? with
      | none | some "-" => (p.write 1 text).ending
      | some target =>
        match s.store target false text p with
        | .ok p => p.ending
        | .error e => s.fail 1 (Quoting.plainName target ++ ": " ++ e.reason)

/-! ## Common lines -/

/-- Where a line stands that is in one of two files, or in both. -/
inductive Side where
  | first
  | second
  | both
  deriving DecidableEq

/-- How it is dealt with that lines are not in order. -/
inductive OrderCheck where
  | off
  | warns
  | fails
  deriving DecidableEq

/-- One of the files that are compared. -/
structure Feed where
  number : Nat
  rows : List (List UInt8)
  last : Option (List UInt8) := none
  isUnsorted : Bool := false

namespace Feed

/-- Whether the order is wrong where the next line is passed: of it and the one behind it or, at the
end, of it and the one before. -/
def isWrong (f : Feed) : Bool :=
  match f.last, f.rows with
  | _, a :: b :: _ => Order.bytes a b = .gt
  | some a, [b] => Order.bytes a b = .gt
  | _, _ => false

end Feed

/-- How the comparison of two files is shown, and how far it has come. -/
structure CommState where
  supply : Supply
  check : OrderCheck
  terminator : UInt8
  delimiter : List UInt8
  shown : List Side
  progress : Progress
  found : List Side := []
  isUneven : Bool := false
  isDone : Bool := false

namespace CommState

def show_ (side : Side) (row : List UInt8) (x : CommState) : CommState :=
  let gap (other : Side) : List UInt8 := if other ∈ x.shown then x.delimiter else []
  let before : List UInt8 := match side with
    | .first => []
    | .second => gap .first
    | .both => gap .first ++ gap .second
  let x := { x with found := side :: x.found, isUneven := x.isUneven || side ≠ .both }
  if side ∈ x.shown then
    { x with progress := x.progress.write 1 (before ++ row ++ [x.terminator]) }
  else x

def pass (f : Feed) (x : CommState) : Feed × CommState :=
  let looks := x.check = .fails || (x.check = .warns && x.isUneven)
  let next := { f with rows := f.rows.tail, last := f.rows.head? }
  if looks && !f.isUnsorted && f.isWrong then
    let text := "file " ++ toString f.number ++ " is not in sorted order"
    ({ next with isUnsorted := true },
      { x with
        progress := x.progress.complain x.supply 1 text
        isDone := x.check = .fails })
  else (next, x)

/-- Compares what is left of two files. -/
def run : (fuel : Nat) → Feed → Feed → CommState → CommState
  | 0, _, _, x => x
  | fuel + 1, f, g, x =>
    if x.isDone then x
    else
      let order := match f.rows, g.rows with
        | [], _ => Ordering.gt
        | _, [] => .lt
        | a :: _, b :: _ => Order.bytes a b
      match order, f.rows.head?, g.rows.head? with
      | .lt, some a, _ =>
        let (f, x) := (x.show_ .first a).pass f
        run fuel f g x
      | .gt, _, some b =>
        let (g, x) := (x.show_ .second b).pass g
        run fuel f g x
      | .eq, _, some b =>
        let (f, x) := (x.show_ .both b).pass f
        if x.isDone then x
        else
          let (g, x) := x.pass g
          run fuel f g x
      | _, _, _ =>
        if f.isUnsorted || g.isUnsorted then
          { x with progress := { x.progress with status := 1 } }
        else x

end CommState

/-- Shows which lines two sorted files have in common. -/
def comm : Tool := fun s =>
  let table : OptionTable :=
    { letters := "123z"
      names := [("check-order", .nothing, "check"), ("nocheck-order", .nothing, "nocheck"),
        ("output-delimiter", .value, "delimiter"), ("total", .nothing, "total"),
        ("zero-terminated", .nothing, "z")]
      usage := "[OPTION]... FILE1 FILE2" }
  s.withOptions table 1 fun o =>
    match o.words with
    | [] => s.misuse 1 "missing operand"
    | [name] => s.misuse 1 ("missing operand after " ++ Quoting.word name)
    | _ :: _ :: name :: _ => s.misuse 1 ("extra operand " ++ Quoting.word name)
    | [_, _] =>
      let all := s.sources o.words
      let complaint (x : Supply.Source) : Option String :=
        match x.contents with
        | .ok _ => none
        | .error e => some (Quoting.plainName x.name ++ ": " ++ e.reason)
      match all.findSome? complaint with
      | some text => s.fail 1 text
      | none =>
        let terminator : UInt8 := if o.has "z" then 0 else 0x0A
        let delimiter := match o.value? "delimiter" with
          | some "" => [0]
          | some text => Text.Octets.toBytes text
          | none => [0x09]
        let rows := all.map fun x => recordsOf terminator x.bytes
        let first : Feed := { number := 1, rows := rows.headD [] }
        let second : Feed := { number := 2, rows := (rows[1]?).getD [] }
        let check : OrderCheck := match o.last? ["check", "nocheck"] with
          | none => .warns
          | some (key, _) => if key = "check" then .fails else .off
        let shown : List Side := ([(.first, "1"), (.second, "2"), (.both, "3")].filter fun x =>
          !o.has x.2).map Prod.fst
        let start : CommState :=
          { supply := s, check, terminator, delimiter, shown, progress := .start s }
        let x := start.run (first.rows.length + second.rows.length + 1) first second
        let number (side : Side) : List UInt8 :=
          Text.Octets.toBytes (toString (x.found.filter (· = side)).length)
        let p := if o.has "total" && !x.isDone then
            x.progress.write 1 (number .first ++ delimiter ++ number .second ++ delimiter ++
              number .both ++ delimiter ++ Text.Octets.toBytes "total" ++ [terminator])
          else x.progress
        let p := if p.status = 0 || x.isDone then p
          else p.complain s 1 "input is not in sorted order"
        { p.ending with
          consumed := if all.any Supply.Source.isInput then s.inputBytes.length else 0 }

end Gutter.Shell.Tool
