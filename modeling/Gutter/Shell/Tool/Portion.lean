import Gutter.Shell.Number
import Gutter.Shell.Tool

/-!
# Programs that measure texts and take parts of them
-/

namespace Gutter.Shell.Tool

def closeInput (s : Supply) (all : List Supply.Source) (p : Progress) : Progress :=
  match s.input with
  | .error .badDescriptor =>
    if all.any Supply.Source.isInput then p.complain s 1 "-: Bad file descriptor" else p
  | _ => p

/-! ## Counting -/

/-- What is counted in a text. -/
structure Tally where
  lines : Nat := 0
  words : Nat := 0
  bytes : Nat := 0
  widest : Nat := 0

namespace Tally

structure Place where
  inWord : Bool := false
  column : Nat := 0

/-- Counts one more byte. Only what can be seen makes a word or takes up width. -/
def step (x : Tally × Place) (b : UInt8) : Tally × Place :=
  let t := { x.1 with bytes := x.1.bytes + 1 }
  let isVisible := 0x20 < b && b < 0x7F
  let isBlank := b = 0x20 || (0x09 ≤ b && b ≤ 0x0D)
  let endsLine := b = 0x0A || b = 0x0C || b = 0x0D
  let column := if isVisible || b = 0x20 then x.2.column + 1
    else if b = 0x09 then x.2.column + 8 - x.2.column % 8 else x.2.column
  ({ t with
      lines := if b = 0x0A then t.lines + 1 else t.lines
      words := if isVisible && !x.2.inWord then t.words + 1 else t.words
      widest := max t.widest column },
    { inWord := isVisible || (x.2.inWord && !isBlank), column := if endsLine then 0 else column })

def ofBytes (bs : List UInt8) : Tally := (bs.foldl step ({}, {})).1

def add (a b : Tally) : Tally :=
  ⟨a.lines + b.lines, a.words + b.words, a.bytes + b.bytes, max a.widest b.widest⟩

end Tally

/-- Counts lines, words, characters and bytes. The numbers are as wide as the size of all files
needs it. -/
def wc : Tool := fun s =>
  let table : OptionTable :=
    { letters := "clLmw"
      names := [("bytes", .nothing, "c"), ("chars", .nothing, "m"), ("lines", .nothing, "l"),
        ("words", .nothing, "w"), ("files0-from", .value, "from"),
        ("max-line-length", .nothing, "L"), ("total", .value, "total")]
      usage := "[OPTION]... [FILE]..." }
  s.withOptions table 1 fun o =>
    let total := (o.value? "total").elim (.ok "auto")
      (Options.choice "--total" [["auto"], ["always"], ["only"], ["never"]])
    match total, namesFrom o s fun file e =>
      "cannot open " ++ Quoting.name file ++ " for reading: " ++ e.reason with
    | .error e, _ => s.misuse 1 e
    | _, .error r => s.refuse 1 r
    | .ok total, .ok names =>
      let columns (t : Tally) : List Nat :=
        let all : List (String × Nat) :=
          [("l", t.lines), ("w", t.words), ("m", t.bytes), ("c", t.bytes), ("L", t.widest)]
        let isPlain := ["l", "w", "m", "c", "L"].all fun key => !o.has key
        (all.filter fun x => o.has x.1 || (isPlain && x.1 ∈ ["l", "w", "c"])).map Prod.snd
      let all := if (o.value? "from").isSome && names.isEmpty then [] else s.sources names
      let exists_ (x : Supply.Source) : Bool :=
        match x.contents with
        | .ok _ | .error .isDirectory => true
        | .error _ => false
      let known := all.filter exists_
      let size := Number.total ((known.filter Supply.Source.isRegular).map (·.bytes.length))
      let needed := (Nat.toDigits 10 size).length
      let isSingle := all.length = 1 && ((columns {}).length = 1 || known.isEmpty)
      let width := if total = "only" || isSingle then 1
        else if known.all Supply.Source.isRegular then needed else max needed 7
      let row (t : Tally) (name : String) : String :=
        let name := if '\n' ∈ name.toList then Quoting.plainName name else name
        " ".intercalate ((columns t).map (column width)) ++
          (if name.isEmpty then "" else " " ++ name) ++ "\n"
      let (sum, p) := all.foldl (fun (sum, p) x =>
        let name := if names.isEmpty then "" else x.name
        let count (t : Tally) (p : Progress) : Tally × Progress :=
          (sum.add t, if total = "only" then p else p.print (row t name))
        match x.contents with
        | .ok bs => count (Tally.ofBytes bs) p
        | .error e =>
          let shown := if name.isEmpty then "standard input" else x.name
          let p := p.complain s 1 (Quoting.plainName shown ++ ": " ++ e.reason)
          if e = FileError.isDirectory || x.isInput then count {} p else (sum, p))
        (({} : Tally), Progress.start s)
      let showsTotal := total = "always" || total = "only" || (total = "auto" && all.length > 1)
      let p := if showsTotal then p.print (row sum (if total = "only" then "" else "total")) else p
      let usesInput := all.any Supply.Source.isInput
      { (closeInput s all p).ending with
        consumed := if usesInput then s.inputBytes.length else 0 }

/-! ## Parts -/

/-- Which part of a text is wanted: some of it, or all but some of it. -/
inductive Portion where
  | part (n : Nat)
  | allBut (n : Nat)
  deriving DecidableEq

def firstLines (terminator : UInt8) : Nat → List UInt8 → List UInt8
  | 0, _ => []
  | n + 1, bs =>
    match bs.dropWhile (· ≠ terminator) with
    | [] => bs
    | _ :: rest => bs.takeWhile (· ≠ terminator) ++ terminator :: firstLines terminator n rest

/-- How many lines a text has; the last one may lack its end. -/
def lineCount (terminator : UInt8) (bs : List UInt8) : Nat := (recordsOf terminator bs).length

def dropLines (terminator : UInt8) (n : Nat) (bs : List UInt8) : List UInt8 :=
  bs.drop (firstLines terminator n bs).length

def frontPart (terminator : UInt8) (inBytes : Bool) (portion : Portion) (bs : List UInt8) :
    List UInt8 :=
  match portion, inBytes with
  | .part n, true => bs.take n
  | .allBut n, true => bs.take (bs.length - n)
  | .part n, false => firstLines terminator n bs
  | .allBut n, false => firstLines terminator (lineCount terminator bs - n) bs

def endPart (terminator : UInt8) (inBytes : Bool) (portion : Portion) (bs : List UInt8) :
    List UInt8 :=
  match portion, inBytes with
  | .part n, true => bs.drop (bs.length - n)
  | .allBut n, true => bs.drop n
  | .part n, false => dropLines terminator (lineCount terminator bs - n) bs
  | .allBut n, false => dropLines terminator n bs

/-- What a program does that shows a part of each file: under its name if there are several. -/
def showParts (o : Options) (cannotRead : Supply.Source → String)
    (part : Supply.Source → List UInt8) (s : Supply) : List Supply.Source × Progress :=
  let hasTitles : Bool := match o.last? ["q", "v"] with
    | some (key, _) => key = "v"
    | none => o.words.length > 1
  let all := s.sources o.words
  let (_, p) := all.foldl (fun (isFirst, p) x =>
    let name := x.title
    let title := if hasTitles then (if isFirst then "" else "\n") ++ "==> " ++ name ++ " <==\n"
      else ""
    match x.contents with
    | .ok _ => (false, (p.print title).write 1 (part x))
    | .error .isDirectory =>
      (false, (p.print title).complain s 1
        ("error reading " ++ Quoting.name name ++ ": Is a directory"))
    | .error .badDescriptor =>
      (false, (p.print title).complain s 1
        (cannotRead x ++ Quoting.name name ++ ": Bad file descriptor"))
    | .error e =>
      (isFirst, p.complain s 1
        ("cannot open " ++ Quoting.name name ++ " for reading: " ++ e.reason)))
    (true, Progress.start s)
  (all, closeInput s all p)

def portionUnits : String := "bkKmMGTPEZYRQ0"

def portionSize (inBytes : Bool) (text : String) : Except String Nat :=
  (Number.size? portionUnits text).mapError fun fault =>
    "invalid number of " ++ (if inBytes then "bytes" else "lines") ++ ": " ++ Quoting.word text ++
      fault.reason

/-- The size of a part that the options of a program give last, as a text, and whether it is in bytes;
or a complaint about the first option that does not fit. The sign before a number does not count. -/
def portionOf (sign : Char) (wrongDigit : String → String) (o : Options) :
    Except String (String × Bool × Nat) :=
  o.given.foldlM (fun last (key, text) =>
    if key.toList.all Char.isDigit then .error (wrongDigit key)
    else if key = "c" || key = "n" then
      let inBytes : Bool := key = "c"
      let size := if text.startsWith sign.toString then (text.drop 1).toString else text
      (portionSize inBytes size).map fun n => (text, inBytes, n)
    else .ok last) ("10", false, 10)

/-- The arguments with an old way to give the size of a part as new ones, or a letter that is no
option. -/
def withFrontSize : List String → Except Char (List String)
  | [] => .ok []
  | arg :: args =>
    match arg.toList with
    | '-' :: c :: cs =>
      if !c.isDigit then .ok (arg :: args)
      else
        let ds := (c :: cs).takeWhile Char.isDigit
        let letters := (c :: cs).drop ds.length
        match letters.find? (· ∉ ['c', 'b', 'k', 'm', 'l', 'q', 'v', 'z']) with
        | some c => .error c
        | none =>
          let unit := (letters.filter (· ∈ ['c', 'b', 'k', 'm'])).getLast?
          let unit := match unit with
            | some 'c' => []
            | unit => unit.toList
          let option := match (letters.filter (· ∈ ['c', 'b', 'k', 'm', 'l'])).getLast? with
            | some 'l' | none => "-n"
            | _ => "-c"
          let flags := (letters.filter (· ∈ ['q', 'v', 'z'])).map fun c => "-" ++ c.toString
          .ok ((option ++ String.ofList (ds ++ unit)) :: flags ++ args)
    | _ => .ok (arg :: args)

def blockSize : Nat := 8192

/-- The first lines or bytes of files. What is no file is read by blocks where lines are asked
for. -/
def head : Tool := fun s =>
  let table : OptionTable :=
    { letters := "c:n:qvz0123456789"
      names := [("bytes", .value, "c"), ("lines", .value, "n"), ("quiet", .nothing, "q"),
        ("silent", .nothing, "q"), ("verbose", .nothing, "v"), ("zero-terminated", .nothing, "z")]
      usage := "[OPTION]... [FILE]..." }
  match withFrontSize s.args with
  | .error c => s.misuse 1 ("invalid trailing option -- " ++ c.toString)
  | .ok args =>
    let s := { s with args }
    s.withOptions table 1 fun o =>
      let hint := "\nTry '" ++ s.name ++ " --help' for more information."
      match portionOf '-' (fun digit => "invalid trailing option -- " ++ digit ++ hint) o with
      | .error e => s.fail 1 e
      | .ok (text, inBytes, n) =>
        let isRest := text.startsWith "-"
        let terminator : UInt8 := if o.has "z" then 0 else 0x0A
        let part (x : Supply.Source) : List UInt8 :=
          if x.isEndless && inBytes && !isRest then List.replicate n 0
          else frontPart terminator inBytes (if isRest then .allBut n else .part n) x.bytes
        let cannotRead (_ : Supply.Source) : String :=
          if isRest then "cannot fstat " else "error reading "
        let (all, p) := showParts o cannotRead part s
        let consumed := match all.find? Supply.Source.isInput with
          | none => 0
          | some x =>
            let taken := (part x).length
            if s.isFile || (inBytes && !isRest) then taken
            else if isRest || lineCount terminator x.bytes < n ||
                (part x).getLast? ≠ some terminator then
              (if n = 0 && !isRest then 0 else x.bytes.length)
            else min x.bytes.length ((taken + blockSize - 1) / blockSize * blockSize)
        { p.ending with consumed }

/-- The arguments with an old way to give the size of a part as new ones. -/
def withEndSize (args : List String) : List String :=
  match args with
  | [] => []
  | arg :: rest =>
    let isAlone := match rest with
      | [] => true
      | [name] => !name.startsWith "-" || name.length = 1
      | ["--", _] => true
      | _ => false
    match arg.toList with
    | sign :: cs =>
      let ds := cs.takeWhile Char.isDigit
      let letters := cs.drop ds.length
      let known := [[], ['b'], ['c'], ['l'], ['f'], ['b', 'f'], ['c', 'f'], ['l', 'f']]
      let isOld := isAlone && known.contains letters &&
        (sign = '+' || (sign = '-' && cs ≠ [] && cs ≠ ['c'] && (ds ≠ [] || cs.head? ≠ some 'f')))
      if !isOld then args
      else
        let inBytes := letters.head?.any fun c => c = 'b' || c = 'c'
        let isBlocks := letters.head? = some 'b'
        let size := if ds.isEmpty then "10" else String.ofList ds
        ((if inBytes then "-c" else "-n") ++ sign.toString ++ size ++ if isBlocks then "b" else "") ::
          rest
    | [] => args

/-- The last lines or bytes of files. -/
def tail : Tool := fun s =>
  let table : OptionTable :=
    { letters := "c:fFn:qs:vz0123456789"
      names := [("bytes", .value, "c"), ("follow", .perhaps, "f"), ("lines", .value, "n"),
        ("max-unchanged-stats", .value, "max"), ("pid", .value, "pid"), ("quiet", .nothing, "q"),
        ("retry", .nothing, "retry"), ("silent", .nothing, "q"), ("sleep-interval", .value, "s"),
        ("verbose", .nothing, "v"), ("zero-terminated", .nothing, "z")]
      usage := "[OPTION]... [FILE]..." }
  let s := { s with args := withEndSize s.args }
  s.withOptions table 1 fun o =>
    let isRest := o.given.any fun x => (x.1 = "c" || x.1 = "n") && x.2.startsWith "+"
    match portionOf '-' ("option used in invalid context -- " ++ ·) o with
    | .error e => s.fail 1 e
    | .ok (_, inBytes, n) =>
      if n = 0 && !isRest then s.finish 0
      else
        let terminator : UInt8 := if o.has "z" then 0 else 0x0A
        let portion : Portion := if isRest then .allBut (n - 1) else .part n
        let (all, p) := showParts o (fun _ => "cannot fstat ")
          (fun x => endPart terminator inBytes portion x.bytes) s
        let usesInput := all.any Supply.Source.isInput
        { p.ending with consumed := if usesInput then s.inputBytes.length else 0 }

end Gutter.Shell.Tool
