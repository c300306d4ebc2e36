import Gutter.Shell.Number
import Gutter.Shell.Regex.Reader
import Gutter.Shell.Tool

/-!
# Programs that put lines together

Files one after the other or side by side, with their lines numbered, turned around, broken or with
other blanks.
-/

namespace Gutter.Shell.Tool

/-! ## One after the other -/

def visible (showsTab : Bool) (b : UInt8) : List UInt8 :=
  let low (b : UInt8) : List UInt8 :=
    if b < 0x20 then [0x5E, b + 0x40] else if b = 0x7F then [0x5E, 0x3F] else [b]
  if b = 0x0A then [b]
  else if b = 0x09 then (if showsTab then [0x5E, 0x49] else [b])
  else if b < 0x80 then low b
  else [0x4D, 0x2D] ++ low (b - 0x80)

/-- How far joining has come. -/
structure Joint where
  number : Nat := 0
  breaks : Option Nat := some 0
  held : Bool := false

def numbered (n : Nat) : List UInt8 := Text.Octets.toBytes (column 6 n ++ "\t")

/-- Shows some bytes in the ways that are asked for; of what is shown the last byte comes first. -/
def showBytes (o : Options) : Joint → (shown : List UInt8) → List UInt8 → Joint × List UInt8
  | j, shown, [] => (j, shown)
  | j, shown, b :: bs =>
    let wants (keys : List String) : Bool := keys.any o.has
    let showsEnds := wants ["E", "A", "e"]
    let shown := if j.held && b ≠ 0x0A then 0x0D :: shown else shown
    if b = 0x0A then
      let breaks := j.breaks.elim 0 (· + 1)
      let breaks := min breaks 2
      if breaks = 2 && o.has "s" then showBytes o { j with breaks := some 2, held := false } shown bs
      else
        let isNumbered := breaks > 0 && o.has "n" && !o.has "b"
        let number := if isNumbered then j.number + 1 else j.number
        let label := if isNumbered then numbered number else []
        let mark : List UInt8 := if showsEnds then (if j.held then [0x5E, 0x4D, 0x24] else [0x24])
          else []
        showBytes o { number, breaks := some breaks, held := false }
          (0x0A :: mark.reverse ++ label.reverse ++ shown) bs
    else
      let isNumbered := j.breaks.isSome && (o.has "n" || o.has "b")
      let number := if isNumbered then j.number + 1 else j.number
      let shown := (if isNumbered then numbered number else []).reverse ++ shown
      let showsTab := wants ["T", "A", "t"]
      let isPlain := !wants ["v", "A", "e", "t"]
      if isPlain && b = 0x0D && showsEnds then
        showBytes o { number, breaks := none, held := true } shown bs
      else
        let text := if !isPlain then visible showsTab b
          else if showsTab && b = 0x09 then [0x5E, 0x49] else [b]
        showBytes o { number, breaks := none } (text.reverse ++ shown) bs

/-- Joins files, and shows their lines in the ways that are asked for. -/
def cat : Tool := fun s =>
  let table : OptionTable :=
    { letters := "AbeEnstTuv"
      names := [("number-nonblank", .nothing, "b"), ("number", .nothing, "n"),
        ("squeeze-blank", .nothing, "s"), ("show-nonprinting", .nothing, "v"),
        ("show-ends", .nothing, "E"), ("show-tabs", .nothing, "T"), ("show-all", .nothing, "A")]
      usage := "[OPTION]... [FILE]..." }
  s.withOptions table 1 fun o =>
    if !s.hasOutput then s.fail 1 "standard output: Bad file descriptor"
    else
      let isPlain := o.given.all (·.1 = "u")
      let all := s.sources o.words
      let isOutput (x : Supply.Source) : Bool :=
        let location := (s.files.locate s.directory (pathOf x.name)).toOption
        !x.isInput && s.outputFile.any fun (l, place) => location = some l && place > 0
      let (j, p) := s.forEach all 1 Supply.plainComplaint (fun x bytes (j, p) =>
        if isOutput x then
          (j, p.complain s 1 (Quoting.plainName x.name ++ ": input file is output file"))
        else if isPlain then (j, p.write 1 bytes)
        else
          let (j, shown) := showBytes o j [] bytes
          (j, p.write 1 shown.reverse)) ({} : Joint)
      let p := if j.held then p.write 1 [0x0D] else p
      let p := match s.input with
        | .error .badDescriptor =>
          if all.any Supply.Source.isInput then
            p.complain s 1 "closing standard input: Bad file descriptor"
          else p
        | _ => p
      p.ending

/-- The parts of a text that end with a separator; the last one may lack it. -/
def partsAfter (separator : List UInt8) : (fuel : Nat) → (part : List UInt8) → List UInt8 →
    List (List UInt8)
  | 0, part, bs => [part.reverse ++ bs]
  | _, part, [] => if part.isEmpty then [] else [part.reverse]
  | fuel + 1, part, b :: bs =>
    if separator.isPrefixOf (b :: bs) then
      (part.reverse ++ separator) :: partsAfter separator fuel [] ((b :: bs).drop separator.length)
    else partsAfter separator fuel (b :: part) bs

/-- The parts of a text that start with a separator; the first one may lack it. -/
def partsBefore (separator : List UInt8) : (fuel : Nat) → (part : List UInt8) → List UInt8 →
    List (List UInt8)
  | 0, part, bs => [part.reverse ++ bs]
  | _, part, [] => if part.isEmpty then [] else [part.reverse]
  | fuel + 1, part, b :: bs =>
    if separator.isPrefixOf (b :: bs) then
      (if part.isEmpty then [] else [part.reverse]) ++
        partsBefore separator fuel separator.reverse ((b :: bs).drop separator.length)
    else partsBefore separator fuel (b :: part) bs

/-- Where the last match of an expression starts that stands in front of a place, and where it stops;
it does not reach behind another place. -/
def lastMatch? (r : Regex) (text : Array UInt8) (limit : Nat) : (start : Nat) → Option (Nat × Nat)
  | 0 => none
  | start + 1 =>
    let stops := (r.ends r.looksBack text { stop := start }).map Regex.Found.stop
    match (stops.filter (· ≤ limit)).max? with
    | some stop => some (start, stop)
    | none => lastMatch? r text limit start

/-- The parts of a text between matches of an expression, the last one first; `finish` is where the
part ends that is looked for. -/
def partsBetween (r : Regex) (isBefore : Bool) (text : Array UInt8) :
    (fuel : Nat) → (place finish : Nat) → List (List UInt8)
  | 0, _, _ => []
  | fuel + 1, place, finish =>
    match lastMatch? r text place place with
    | none => [Regex.Match.part text 0 finish]
    | some (start, stop) =>
      if isBefore then
        Regex.Match.part text start finish :: partsBetween r isBefore text fuel start start
      else
        Regex.Match.part text stop finish :: partsBetween r isBefore text fuel start stop

/-- The parts of files, the last one first. -/
def tac : Tool := fun s =>
  let table : OptionTable :=
    { letters := "brs:"
      names := [("before", .nothing, "b"), ("regex", .nothing, "r"), ("separator", .value, "s")]
      usage := "[OPTION]... [FILE]..." }
  let complaint (x : Supply.Source) (e : FileError) : String :=
    match e with
    | .isDirectory => Quoting.plainName x.name ++ ": read error: Invalid argument"
    | e => "failed to open " ++ Quoting.name x.name ++ " for reading: " ++ e.reason
  s.withOptions table 1 fun o =>
    let separator := match o.value? "s" with
      | some "" => [0]
      | some text => Text.Octets.toBytes text
      | none => [0x0A]
    let dialect : Regex.Dialect := {}
    let pattern := (o.value? "s").getD "\n"
    let byText (bs : List UInt8) : List (List UInt8) :=
      (if o.has "b" then partsBefore separator (bs.length + 1) [] bs
        else partsAfter separator (bs.length + 1) [] bs).reverse
    let byPattern (r : Regex) (bs : List UInt8) : List (List UInt8) :=
      partsBetween r (o.has "b") bs.toArray (bs.length + 2) bs.length bs.length
    let split : Except String (List UInt8 → List (List UInt8)) :=
      if !o.has "r" then .ok byText
      else if pattern.isEmpty then .error "separator cannot be empty"
      else
        match Regex.ofText dialect pattern with
        | .ok (r, _) => .ok (byPattern r)
        | .error f => .error f.message
    match split with
    | .error e => s.fail 1 e
    | .ok split => s.mapEach o.words complaint fun bs => (split bs).flatten

/-- The lines of files, each turned around. -/
def rev : Tool := fun s =>
  let table : OptionTable :=
    { letters := "hV0", names := [("zero", .nothing, "0")], version := "from util-linux 2.39.3" }
  s.withOptions table 1 fun o =>
    let terminator : UInt8 := if o.has "0" then 0 else 0x0A
    let all := if o.words.isEmpty then s.sources [] else o.words.map s.source
    let errors := all.flatMap fun x => match x.contents with
      | .error .isDirectory => s.complaint (x.name ++ ": Is a directory")
      | .error e => s.complaint ("cannot open " ++ x.name ++ ": " ++ e.reason)
      | .ok _ => []
    let p := (Progress.start s).write 2 errors
    let p := p.write 1 (all.flatMap fun x =>
      let bs := x.bytes
      let text := ofRecords terminator ((recordsOf terminator bs).map List.reverse)
      if bs.getLast? = some terminator then text else text.dropLast)
    { p.ending with
      status := .code (if errors.isEmpty then 0 else 1)
      consumed := if all.any Supply.Source.isInput then s.inputBytes.length else 0 }

/-! ## Numbered -/

/-- Which lines of a part of a text are numbered. -/
inductive Numbering where
  | all
  | nonEmpty
  | none
  | matching (r : Regex)

/-- The way of numbering that a text names, unless there is none; or why its expression is none. -/
def Numbering.ofText (text : String) : Except String (Option Numbering) :=
  match text.toList with
  | ['a'] => .ok (some .all)
  | ['t'] => .ok (some .nonEmpty)
  | ['n'] => .ok (some .none)
  | 'p' :: cs =>
    match Regex.ofText {} (String.ofList cs) with
    | .ok (r, _) => .ok (some (.matching r))
    | .error f => .error f.message
  | _ => .ok Option.none

/-- How lines are numbered, and what has been complained about. -/
structure NumberPlan where
  header : Numbering := .none
  body : Numbering := .nonEmpty
  footer : Numbering := .none
  start : Int := 1
  step : Int := 1
  join : Int := 1
  width : Int := 6
  format : String := "rn"
  complaints : List String := []

/-- The plan with one more option, or the complaint that ends the program. -/
def NumberPlan.add (p : NumberPlan) (key text : String) : Except String NumberPlan := do
  let style (name : String) (set : Numbering → NumberPlan) : Except String NumberPlan := do
    match ← Numbering.ofText text with
    | some n => return set n
    | Option.none =>
      let complaint := "invalid " ++ name ++ " numbering style: " ++ Quoting.word text
      return { p with complaints := p.complaints ++ [complaint] }
  let number (name : String) (least : Int) (set : Int → NumberPlan) : Except String NumberPlan :=
    match Number.decimal? text with
    | some n =>
      if least ≤ n then .ok (set n)
      else .error ("invalid " ++ name ++ ": " ++ Quoting.word text ++
        ": Numerical result out of range")
    | Option.none => .error ("invalid " ++ name ++ ": " ++ Quoting.word text)
  match key with
  | "h" => style "header" fun header => { p with header }
  | "b" => style "body" fun body => { p with body }
  | "f" => style "footer" fun footer => { p with footer }
  | "v" => number "starting line number" (-Nat.pow 2 63) fun start => { p with start }
  | "i" => number "line number increment" (-Nat.pow 2 63) fun step => { p with step }
  | "l" => number "line number of blank lines" 1 fun join => { p with join }
  | "w" => number "line number field width" 1 fun width => { p with width }
  | "n" =>
    if text ∈ ["ln", "rn", "rz"] then return { p with format := text }
    else
      let complaint := "invalid line numbering format: " ++ Quoting.word text
      return { p with complaints := p.complaints ++ [complaint] }
  | _ => return p

/-- How far numbering has come. -/
structure Count where
  number : Int
  style : Numbering
  blanks : Nat := 0

/-- Numbers the lines of files. -/
def nl : Tool := fun s =>
  let table : OptionTable :=
    { letters := "h:b:f:v:i:pl:s:w:n:d:"
      names := [("body-numbering", .value, "b"), ("footer-numbering", .value, "f"),
        ("header-numbering", .value, "h"), ("join-blank-lines", .value, "l"),
        ("line-increment", .value, "i"), ("no-renumber", .nothing, "p"),
        ("number-separator", .value, "s"), ("number-width", .value, "w"),
        ("number-format", .value, "n"), ("starting-line-number", .value, "v"),
        ("section-delimiter", .value, "d")]
      usage := "[OPTION]... [FILE]..." }
  s.withOptions table 1 fun o =>
    match o.given.foldlM (fun (p : NumberPlan) (key, text) => p.add key text) {} with
    | .error e => s.fail 1 e
    | .ok { header, body, footer, start, step, join, width, format, complaints } =>
      if !complaints.isEmpty then
        s.misuse 1 (("\n" ++ s.name ++ ": ").intercalate complaints)
      else
        let separator := Text.Octets.toBytes ((o.value? "s").getD "\t")
        let width := width.toNat
        let mark : List UInt8 := match (o.value? "d").map Text.Octets.toBytes with
          | some [b] => [b, 0x3A]
          | some bs => bs
          | Option.none => [0x5C, 0x3A]
        let empty : List UInt8 := List.replicate (width + separator.length) 0x20
        let label (n : Int) : List UInt8 :=
          let ds := Nat.toDigits 10 n.natAbs
          let sign := if n < 0 then ['-'] else []
          let gap := width - ds.length - sign.length
          Text.Octets.toBytes (String.ofList (match format with
            | "ln" => sign ++ ds ++ List.replicate gap ' '
            | "rz" => sign ++ List.replicate gap '0' ++ ds
            | _ => List.replicate gap ' ' ++ sign ++ ds))
        let line (c : Count) (row : List UInt8) : Count × List UInt8 :=
          let isPart (n : Nat) : Bool := !mark.isEmpty && row = (List.replicate n mark).flatten
          let section_ (style : Numbering) : Count × List UInt8 :=
            ({ number := if o.has "p" then c.number else start, style }, [0x0A])
          if isPart 3 then section_ header
          else if isPart 2 then section_ body
          else if isPart 1 then section_ footer
          else
            let blanks := if row.isEmpty then c.blanks + 1 else 0
            let isNumbered := match c.style with
              | .none => false
              | .nonEmpty => !row.isEmpty
              | .all => !row.isEmpty || join ≤ 1 || join ≤ (blanks : Int)
              | .matching r => (r.find? row.toArray 0).isSome
            if isNumbered then
              ({ c with number := c.number + step, blanks := 0 },
                label c.number ++ separator ++ row ++ [0x0A])
            else ({ c with blanks }, empty ++ row ++ [0x0A])
        (s.forEach (s.sources o.words) 1 Supply.plainComplaint (fun _ bytes (c, p) =>
          let (c, rows) := (linesOf bytes).foldl (fun (c, rows) row =>
            let (c, text) := line c row
            (c, text :: rows)) (c, ([] : List (List UInt8)))
          (c, p.write 1 rows.reverse.flatten)) ⟨start, body, 0⟩).2.ending

/-! ## Side by side -/

/-- The characters of a list of delimiters; an empty one stands for no delimiter. -/
def readDelimiters : List Char → Option (List (List UInt8))
  | [] => some []
  | ['\\'] => none
  | '\\' :: c :: cs => do
    let d : List UInt8 := match c with
      | '0' => []
      | 'b' => [0x08]
      | 'f' => [0x0C]
      | 'n' => [0x0A]
      | 'r' => [0x0D]
      | 't' => [0x09]
      | 'v' => [0x0B]
      | c => [UInt8.ofNat c.toNat]
    return d :: (← readDelimiters cs)
  | c :: cs => do return [UInt8.ofNat c.toNat] :: (← readDelimiters cs)

def delimited (delimiters : List (List UInt8)) (parts : List (List UInt8)) : List UInt8 :=
  (parts.zipIdx.map fun (part, i) =>
    if i = 0 then part else (delimiters[(i - 1) % max delimiters.length 1]?).getD [] ++ part).flatten

/-- Puts the lines of files side by side, or all lines of each file into one. -/
def paste : Tool := fun s =>
  let table : OptionTable :=
    { letters := "d:sz"
      names := [("delimiters", .value, "d"), ("serial", .nothing, "s"),
        ("zero-terminated", .nothing, "z")]
      usage := "[OPTION]... [FILE]..." }
  s.withOptions table 1 fun o =>
    let list := (o.value? "d").getD "\t"
    match readDelimiters list.toList with
    | none => s.fail 1 ("delimiter list ends with an unescaped backslash: " ++ list)
    | some delimiters =>
      let delimiters := if delimiters.isEmpty then [[]] else delimiters
      let terminator : UInt8 := if o.has "z" then 0 else 0x0A
      let names := if o.words.isEmpty then ["-"] else o.words
      if o.has "s" then
        let all := s.sources names
        let p := all.foldl (fun p x =>
          match x.contents with
          | .ok bytes =>
            p.write 1 (delimited delimiters (recordsOf terminator bytes) ++ [terminator])
          | .error e =>
            let p := if e = .isDirectory then p.write 1 [terminator] else p
            p.complain s 1 (Supply.plainComplaint x e)) (Progress.start s)
        let usesInput := all.any Supply.Source.isInput
        { p.ending with consumed := if usesInput then s.inputBytes.length else 0 }
      else
        let inputs := names.filter (· = "-")
        let rows := recordsOf terminator s.inputBytes
        let shares := inputs.length
        let turn (i : Nat) : List (List UInt8) :=
          (rows.zipIdx.filter fun x => x.2 % max shares 1 = i).map Prod.fst
        let columns := (names.foldl (fun (cs, i) name =>
          if name = "-" then (cs ++ [s.input.map fun _ => turn i], i + 1)
          else (cs ++ [(s.source name).contents.map (recordsOf terminator)], i))
          (([] : List (Except FileError (List (List UInt8)))), 0)).1
        let complaintOf (name : String) (e : FileError) : String :=
          Supply.plainComplaint { name, contents := .error e } e
        let isMissing (c : Except FileError (List (List UInt8))) : Bool :=
          match c with
          | .ok _ | .error .isDirectory => false
          | .error _ => true
        match (names.zip columns).find? fun x => isMissing x.2 with
        | some (name, .error e) => s.fail 1 (complaintOf name e)
        | _ =>
          let unread := (names.zip columns).filter fun x => !x.2.isOk
          let start := unread.foldl (fun p x => p.complain s 1 (complaintOf x.1 .isDirectory))
            (Progress.start s)
          let columns := columns.map fun c => c.toOption.getD []
          let height := (columns.map List.length).foldl max 0
          let lines := (List.range height).map fun i =>
            delimited delimiters (columns.map fun column => (column[i]?).getD []) ++ [terminator]
          { start.write 1 lines.flatten |>.ending with
            consumed := if shares = 0 then 0 else s.inputBytes.length }

/-! ## Broken -/

def columnAfter (inBytes : Bool) (column : Nat) (b : UInt8) : Nat :=
  if inBytes then column + 1
  else if b = 0x08 then column - 1
  else if b = 0x0D then 0
  else if b = 0x09 then column + 8 - column % 8
  else column + 1

/-- Breaks a line so that no part of it is too wide. `part` is the part that grows, its last byte
first. -/
def foldLine (inBytes atBlanks : Bool) (width : Nat) :
    (fuel : Nat) → (part : List UInt8) → (column : Nat) → List UInt8 → List UInt8
  | 0, part, _, bs => part.reverse ++ bs
  | _, part, _, [] => part.reverse
  | fuel + 1, part, column, b :: bs =>
    let next := columnAfter inBytes column b
    if next ≤ width then foldLine inBytes atBlanks width fuel (b :: part) next bs
    else
      let isBlank (b : UInt8) : Bool := b = 0x20 || b = 0x09
      let tail := part.takeWhile fun b => !isBlank b
      if atBlanks && tail.length < part.length then
        let kept := part.drop tail.length
        let again := tail.reverse ++ b :: bs
        kept.reverse ++ 0x0A :: foldLine inBytes atBlanks width fuel [] 0 again
      else if part.isEmpty then foldLine inBytes atBlanks width fuel [b] next bs
      else part.reverse ++ 0x0A :: foldLine inBytes atBlanks width fuel [] 0 (b :: bs)

/-- Breaks the lines of files that are too wide. -/
def fold : Tool := fun s =>
  let table : OptionTable :=
    { letters := "bsw:0::1::2::3::4::5::6::7::8::9::"
      names := [("bytes", .nothing, "b"), ("spaces", .nothing, "s"), ("width", .value, "w")]
      usage := "[OPTION]... [FILE]..." }
  s.withOptions table 1 fun o =>
    let given := (o.given.filter fun x => x.1 ∉ ["b", "s"]).map fun x =>
      if x.1 = "w" then x.2 else x.1 ++ x.2
    let widthOf (text : String) : Except String Nat :=
      let complaint := "invalid number of columns: " ++ Quoting.word text
      let n := Number.ofDigits 10 text.toList
      if text.isEmpty || !text.toList.all Char.isDigit then .error complaint
      else if 0 < n && n < UInt64.size - 9 then .ok n
      else .error (complaint ++ ": Numerical result out of range")
    match given.foldlM (fun _ text => widthOf text) 80 with
    | .error e => s.fail 1 e
    | .ok width =>
      let row (bs : List UInt8) : List UInt8 :=
        foldLine (o.has "b") (o.has "s") width (bs.length * (width + 2) + 2) [] 0 bs
      s.mapEach o.words Supply.plainComplaint fun bs =>
        let text := ofLines ((linesOf bs).map row)
        if isCut bs then text.dropLast else text

/-! ## Other blanks -/

/-- The places of tabs: some columns, and what comes after them. -/
structure TabStops where
  stops : List Nat
  every : Option (Nat × Bool)

namespace TabStops

/-- The places that a list spells. -/
def ofText? (text : String) : Except String TabStops :=
  let words := (text.toList.splitBy fun a b => a ∉ [',', ' ', '\t'] && b ∉ [',', ' ', '\t']).filter
    fun w => w.all (· ∉ [',', ' ', '\t'])
  let rec go (stops : List Nat) (every : Option (Nat × Bool)) :
      List (List Char) → Except String TabStops
    | [] => .ok ⟨stops, every⟩
    | w :: ws =>
      let (sign, ds) := match w with
        | '/' :: ds => (some false, ds)
        | '+' :: ds => (some true, ds)
        | ds => (none, ds)
      match (String.ofList ds).toNat? with
      | none =>
        .error ("tab size contains invalid character(s): " ++
          Quoting.word (String.ofList (w.dropWhile Char.isDigit)))
      | some n =>
        match sign with
        | some isLast => go stops (some (n, isLast)) ws
        | none =>
          if n = 0 then .error "tab size cannot be 0"
          else if stops.getLast?.any (n ≤ ·) then .error "tab sizes must be ascending"
          else go (stops ++ [n]) every ws
  go [] none words

/-- The first stop behind a column, if there is one. -/
def next? (t : TabStops) (column : Nat) : Option Nat :=
  let beyond (n : Nat) : Nat := column + n - column % n
  match t.stops, t.every with
  | [], none => some (beyond 8)
  | [n], none => some (beyond n)
  | stops, every =>
    match stops.find? (column < ·), every with
    | some n, _ => some n
    | none, some (n, isLast) =>
      let start := if isLast then stops.getLast?.getD 0 else 0
      if n = 0 then none else some (column + n - (column - start) % n)
    | none, none => none

end TabStops

def withTabOptions (args : List String) : List String :=
  args.map fun arg =>
    match arg.toList with
    | '-' :: c :: cs => if c.isDigit && (c :: cs).all fun c => c.isDigit || c = ',' then
        "-t" ++ String.ofList (c :: cs) else arg
    | _ => arg

def expandLine (t : TabStops) (onlyInitial : Bool) :
    (column : Nat) → (isInitial : Bool) → List UInt8 → List UInt8
  | _, _, [] => []
  | column, isInitial, b :: bs =>
    let goesOn := isInitial || !onlyInitial
    if b = 0x09 && goesOn then
      let next := (t.next? column).getD (column + 1)
      List.replicate (next - column) 0x20 ++ expandLine t onlyInitial next isInitial bs
    else if b = 0x08 then b :: expandLine t onlyInitial (column - 1) isInitial bs
    else b :: expandLine t onlyInitial (column + 1) (isInitial && (b = 0x20 || b = 0x09)) bs

/-- Puts blanks in place of tabs. -/
def expand : Tool := fun s =>
  let table : OptionTable :=
    { letters := "it:", names := [("initial", .nothing, "i"), ("tabs", .value, "t")],
      usage := "[OPTION]... [FILE]..." }
  let s := { s with args := withTabOptions s.args }
  s.withOptions table 1 fun o =>
    match TabStops.ofText? (",".intercalate ((o.given.filter (·.1 = "t")).map Prod.snd)) with
    | .error e => s.fail 1 e
    | .ok t =>
      s.mapEach o.words Supply.plainComplaint fun bs =>
        let text := ofLines ((linesOf bs).map (expandLine t (o.has "i") 0 true))
        if isCut bs then text.dropLast else text

/-- Where putting tabs in place of blanks is within a line. -/
structure Gap where
  column : Nat := 0
  blanks : List UInt8 := []
  isSingle : Bool := false
  afterBlank : Bool := true

namespace Gap

def text (g : Gap) : List UInt8 :=
  if g.isSingle && g.blanks.length > 1 then 0x09 :: g.blanks.tail else g.blanks

end Gap

/-- A line with tabs in place of blanks that reach a tab stop. -/
def unexpandLine (t : TabStops) (everywhere : Bool) (g : Gap) : List UInt8 → List UInt8
  | [] => g.text
  | b :: bs =>
    let isBlank : Bool := b = 0x20 || b = 0x09
    if isBlank then
      match t.next? g.column with
      | none => g.text ++ b :: bs
      | some stop =>
        let reaches := b = 0x09 || (g.afterBlank && g.column + 1 = stop)
        let column := if b = 0x09 then stop else g.column + 1
        if reaches then
          let before := if g.isSingle then [0x09] else []
          before ++ 0x09 :: unexpandLine t everywhere { column } bs
        else
          unexpandLine t everywhere
            { column, blanks := g.blanks ++ [b], isSingle := g.isSingle || column = stop } bs
    else
      let column := if b = 0x08 then g.column - 1 else g.column + 1
      let rest := if everywhere then unexpandLine t everywhere { column, afterBlank := false } bs
        else bs
      g.text ++ b :: rest

/-- Puts tabs in place of blanks. -/
def unexpand : Tool := fun s =>
  let table : OptionTable :=
    { letters := "at:", names := [("tabs", .value, "t"), ("all", .nothing, "a"),
        ("first-only", .nothing, "first")], usage := "[OPTION]... [FILE]..." }
  let s := { s with args := withTabOptions s.args }
  s.withOptions table 1 fun o =>
    match TabStops.ofText? (",".intercalate ((o.given.filter (·.1 = "t")).map Prod.snd)) with
    | .error e => s.fail 1 e
    | .ok t =>
      let everywhere := (o.has "a" || o.has "t") && !o.has "first"
      s.mapEach o.words Supply.plainComplaint fun bs =>
        let text := ofLines ((linesOf bs).map (unexpandLine t everywhere {}))
        if isCut bs then text.dropLast else text

end Gutter.Shell.Tool
