import Gutter.Shell.Order
import Gutter.Shell.Pattern
import Gutter.Shell.Tool.Store

/-!
# Listing directories
-/

namespace Gutter.Shell.Tool

/-! ## What is listed -/

/-- Something that is listed: its name, and what it is. -/
structure Item where
  name : String
  location : Location
  node : Node
  mode : Nat
  time : Int

namespace Item

def size (x : Item) : Nat :=
  match x.node with
  | .file contents => contents.length
  | .directory => 4096
  | .link target => target.bytes.length
  | .program name => (programContents name).length
  | .device _ | .stream _ => 0

def blocks (x : Item) : Nat :=
  match x.node with
  | .directory => 4
  | .file contents => (contents.length + 4095) / 4096 * 4
  | .program _ => 4
  | _ => 0

def isRunnable (x : Item) : Bool :=
  match x.node with
  | .file _ | .program _ => x.mode &&& 0o111 ≠ 0
  | _ => false

def kind (x : Item) : Char :=
  match x.node with
  | .directory => 'd'
  | .link _ => 'l'
  | .device _ => 'c'
  | .stream _ => 'p'
  | _ => '-'

def ofNode (files : Files) (name : String) (l : Location) (node : Node) : Item :=
  ⟨name, l, node, files.mode l, (files.times.lookup l).getD Date.now⟩

end Item

/-! ## How it is listed -/

/-- The way names are written. -/
inductive NameStyle where
  | literal
  | masked
  | escaped
  | quoted
  | shell
  | shellAlways
  deriving DecidableEq

namespace NameStyle

def escape (inQuotes : Bool) (name : String) : String :=
  let shown (c : Char) : List Char :=
    (Quoting.hidden? c).getD
      (if c = '\\' || (inQuotes && c = '"') || (!inQuotes && c = ' ') then ['\\', c] else [c])
  let text := String.ofList (name.toList.flatMap shown)
  if inQuotes then "\"" ++ text ++ "\"" else text

def write (style : NameStyle) (name : String) : String :=
  match style with
  | .literal => name
  | .masked => String.ofList (name.toList.map fun c => if (Quoting.hidden? c).isSome then '?' else c)
  | .escaped => escape false name
  | .quoted => escape true name
  | .shell => Quoting.shellName name
  | .shellAlways => Quoting.name name

end NameStyle

/-- The way items stand on the page. -/
inductive Layout where
  | single
  | long
  | commas
  | across
  | down
  deriving DecidableEq

/-- How items are sorted. -/
inductive Sorting where
  | none
  | name
  | size
  | time
  | ending
  | version
  | width
  deriving DecidableEq

/-- How directories are listed. -/
structure ListingPlan where
  layout : Layout := .single
  sorting : Sorting := .name
  isReversed : Bool := false
  directoriesFirst : Bool := false
  style : NameStyle := .literal
  signs : Nat := 0
  showsHidden : Bool := false
  showsDots : Bool := false
  showsBlocks : Bool := false
  showsNumbers : Bool := false
  isDeep : Bool := false
  asItems : Bool := false
  followsLinks : Bool := false
  width : Nat := 80
  isHuman : Bool := false
  showsOwner : Bool := true
  showsGroup : Bool := true
  hasNumbersForNames : Bool := false
  timeFormat : Option String := none
  ignored : List String := []
  hasZeros : Bool := false

namespace ListingPlan

def sign (plan : ListingPlan) (x : Item) : String :=
  match x.node with
  | .directory => if plan.signs ≥ 1 then "/" else ""
  | .link _ => if plan.signs ≥ 2 then "@" else ""
  | .stream _ => if plan.signs ≥ 2 then "|" else ""
  | _ => if plan.signs ≥ 3 && x.isRunnable then "*" else ""

/-- A number in a short form with a unit. -/
def human (n : Nat) : String :=
  let rec go : (fuel : Nat) → Nat → Nat → List String → String
    | 0, n, _, _ => toString n
    | fuel + 1, n, unit, names =>
      match names with
      | name :: next :: more =>
        if (n + unit - 1) / unit < 1024 then
          let tenths := (n * 10 + unit - 1) / unit
          if unit = 1 then toString n
          else if tenths < 100 then toString (tenths / 10) ++ "." ++ toString (tenths % 10) ++ name
          else toString ((n + unit - 1) / unit) ++ name
        else go fuel n (unit * 1024) (next :: more)
      | _ => toString n
  go 8 n 1 ["", "K", "M", "G", "T", "P", "E", "Z"]

def sizeText (plan : ListingPlan) (n : Nat) : String := if plan.isHuman then human n else toString n

def shown (plan : ListingPlan) (blockWidth : Nat) (x : Item) : String :=
  let blocks := if plan.isHuman then human (x.blocks * 1024) else toString x.blocks
  (if plan.showsNumbers then "1 " else "") ++
    (if plan.showsBlocks && plan.layout ≠ .long then
      String.ofList (List.replicate (blockWidth - blocks.length) ' ') ++ blocks ++ " " else "") ++
    plan.style.write x.name ++ plan.sign x

/-- Compares items by what they are sorted by. -/
def compare (plan : ListingPlan) (a b : Item) : Ordering :=
  let bytes (x : Item) : List UInt8 := Text.Octets.toBytes x.name
  let names := Order.bytes (bytes a) (bytes b)
  let ending (x : Item) : List UInt8 :=
    let back := (bytes x).reverse
    let tail := back.takeWhile (· ≠ 0x2E)
    if tail.length = back.length then [] else tail.reverse
  match plan.sorting with
  | .none => .eq
  | .name => names
  | .size => (Ord.compare b.size a.size).then names
  | .time => (Ord.compare b.time a.time).then names
  | .ending => (Order.bytes (ending a) (ending b)).then names
  | .version => (Order.versions (bytes a) (bytes b)).then names
  | .width => (Ord.compare a.name.length b.name.length).then names

def sort (plan : ListingPlan) (items : List Item) : List Item :=
  let order (a b : Item) : Ordering :=
    let result := plan.compare a b
    if plan.isReversed then result.swap else result
  let sorted := items.mergeSort fun a b => order a b ≠ .gt
  let sorted := if plan.sorting = .none && plan.isReversed then sorted.reverse else sorted
  if plan.directoriesFirst then
    let isFirst (x : Item) : Bool := x.node = .directory
    sorted.filter isFirst ++ sorted.filter fun x => !isFirst x
  else sorted

/-! ## Columns -/

def gap : (fuel : Nat) → (start stop : Nat) → String
  | 0, _, _ => ""
  | fuel + 1, start, stop =>
    if stop ≤ start then ""
    else if (start + 1) / 8 < stop / 8 then "\t" ++ gap fuel (start + 8 - start % 8) stop
    else " " ++ gap fuel (start + 1) stop

/-- The width of a name; only what can be seen takes up width. -/
def widthOf (text : String) : Nat := (text.toList.filter fun c => ' ' ≤ c && c ≤ '~').length

def columnWidths (isDown : Bool) (widths : List Nat) (columns : Nat) : List Nat :=
  let rows := (widths.length + columns - 1) / columns
  let column (i : Nat) : Nat := if isDown then i / max rows 1 else i % columns
  (List.range columns).map fun c =>
    let own := (widths.zipIdx.filter fun x => column x.2 = c).map Prod.fst
    own.foldl max 0 + if c + 1 = columns then 0 else 2

/-- Names in as many columns as fit into a width. -/
def columns (isDown : Bool) (width : Nat) (names : List String) : String :=
  let widths := names.map widthOf
  let count := names.length
  let fits (n : Nat) : Bool :=
    let ws := (columnWidths isDown widths n).map fun w => max w 3
    Number.total ws < width
  let most := min count (max 1 (width / 3))
  let n := ((List.range most).reverse.find? fun i => fits (i + 1)).elim 1 (· + 1)
  let rows := (count + n - 1) / n
  let starts := (columnWidths isDown widths n).map fun w => max w 3
  let row (r : Nat) : String :=
    let places := (List.range n).filterMap fun c =>
      let i := if isDown then c * rows + r else r * n + c
      (names[i]?).map fun name => (c, name)
    let cells := places.zipIdx.map fun ((c, name), i) =>
      let start := Number.total (starts.take c)
      let next := Number.total (starts.take (c + 1))
      if i + 1 = places.length then name
      else name ++ gap (width + 8) (start + widthOf name) next
    String.join cells ++ "\n"
  if count = 0 then "" else String.join ((List.range rows).map row)

def commas (width : Nat) (names : List String) : String :=
  let (text, _) := names.foldl (fun (text, place) name =>
    let w := widthOf name
    if text.isEmpty then (name, w)
    else if place + w + 2 < width || width = 0 then (text ++ ", " ++ name, place + w + 2)
    else (text ++ ",\n" ++ name, w)) ("", 0)
  if names.isEmpty then "" else text ++ "\n"

/-! ## Whole lists -/

def aligned (toLeft : Bool) (texts : List String) : List String :=
  let width := (texts.map String.length).foldl max 0
  texts.map fun text =>
    let blanks := String.ofList (List.replicate (width - text.length) ' ')
    if toLeft then text ++ blanks else blanks ++ text

def timeText (plan : ListingPlan) (x : Item) : String :=
  let date := Date.ofMoment x.time
  match plan.timeFormat with
  | some format => date.write format
  | none =>
    if Date.now - 15778476 < x.time && x.time ≤ Date.now then date.write "%b %e %H:%M"
    else date.write "%b %e  %Y"

/-- Items with all that is known about them, a line for each. -/
def longLines (plan : ListingPlan) (files : Files) (items : List Item) : List String :=
  let owner := if plan.hasNumbersForNames then "0" else "root"
  let links (x : Item) : Nat :=
    match x.node with
    | .directory => 2 + ((files.children x.location).filter fun name =>
        files.isDirectory (x.location ++ [name])).length
    | _ => 1
  let size (x : Item) : String :=
    match x.node with
    | .device .null => "1, 3"
    | .device .zero => "1, 5"
    | .device .full => "1, 7"
    | .device .terminal => "5, 0"
    | _ => plan.sizeText x.size
  let target (x : Item) : String :=
    match x.node with
    | .link path => " -> " ++ plan.style.write (Text.Octets.ofBytes path.bytes)
    | _ => ""
  let name (x : Item) : String :=
    plan.style.write x.name ++ (if x.kind = 'l' then "" else plan.sign x) ++ target x
  let blocks := aligned false (items.map fun x => toString x.blocks)
  let counts := aligned false (items.map fun x => toString (links x))
  let sizes := aligned false (items.map size)
  let times := aligned true (items.map plan.timeText)
  (items.zip (blocks.zip (counts.zip (sizes.zip times)))).map fun (x, block, count, size, time) =>
    (if plan.showsNumbers then "1 " else "") ++ (if plan.showsBlocks then block ++ " " else "") ++
      x.kind.toString ++ rightsText x.mode ++ " " ++ count ++ " " ++
      (if plan.showsOwner then owner ++ " " else "") ++
      (if plan.showsGroup then owner ++ " " else "") ++ size ++ " " ++ time ++ " " ++ name x

/-- Items on the page. -/
def write (plan : ListingPlan) (files : Files) (items : List Item) : String :=
  let blockWidth := (items.map fun x => (toString x.blocks).length).foldl max 0
  let names := items.map (plan.shown blockWidth)
  let ending := if plan.hasZeros then "\x00" else "\n"
  match plan.layout with
  | .single => String.join (names.map (· ++ ending))
  | .long => String.join ((plan.longLines files items).map (· ++ ending))
  | .commas => commas plan.width names
  | .across => if plan.width = 0 then (if names.isEmpty then "" else "  ".intercalate names ++ "\n")
    else columns false plan.width names
  | .down => if plan.width = 0 then (if names.isEmpty then "" else "  ".intercalate names ++ "\n")
    else columns true plan.width names

/-- The items in a directory. -/
def items (plan : ListingPlan) (files : Files) (l : Location) : List Item :=
  let isIgnored (name : String) : Bool := plan.ignored.any fun pattern =>
    (Pattern.ofLetters 0 (Letter.ofString pattern false)).accepts name
  let names := ((files.children l).map fun n => (Text.Octets.ofBytes n, n)).filter fun x =>
    (plan.showsHidden || !x.1.startsWith ".") && !isIgnored x.1
  let item (name : String) (l : Location) : Option Item :=
    (files.node? l).map (Item.ofNode files name l)
  let dots := if plan.showsDots then
      [item "." l, item ".." l.dropLast].filterMap id
    else []
  let look (l : Location) : Location :=
    if plan.followsLinks then
      match files.node? l with
      | some (.link path) => (files.locate l.dropLast path).toOption.getD l
      | _ => l
    else l
  dots ++ names.filterMap fun x => item x.1 (look (l ++ [x.2]))

/-- The list of a directory, perhaps with the lists of the directories in it. -/
def listDirectory (plan : ListingPlan) (files : Files) :
    (fuel : Nat) → (hasTitle : Bool) → (name : String) → Location → List String
  | 0, _, _, _ => []
  | fuel + 1, hasTitle, name, l =>
    let items := plan.sort (plan.items files l)
    let title := if hasTitle then NameStyle.write plan.style name ++ ":\n" else ""
    let total := if plan.layout = .long || plan.showsBlocks then
        let blocks := Number.total (items.map Item.blocks)
        "total " ++ (if plan.isHuman then human (blocks * 1024) else toString blocks) ++ "\n"
      else ""
    let inner := if plan.isDeep then
        (items.filter fun x => x.node = .directory && x.name ≠ "." && x.name ≠ "..").flatMap
          fun x => listDirectory plan files fuel true (inside name x.name) x.location
      else []
    (title ++ total ++ plan.write files items) :: inner

end ListingPlan

/-! ## The program -/

def lastChoice (o : Options) (key option : String) (groups : List (List String)) :
    Except Refusal (Option String) :=
  match o.value? key with
  | none => .ok none
  | some word =>
    match Options.choice option groups word with
    | .ok name => .ok (some name)
    | .error text => .error { text, hasHint := true }

namespace ListingPlan

/-- What is asked for by some options. -/
def ofOptions (o : Options) (s : Supply) : Except Refusal ListingPlan := do
  let sorting ← lastChoice o "sort" "--sort" [["none"], ["time"], ["size"], ["extension"],
    ["version"], ["width"]]
  let format ← lastChoice o "format" "--format" [["verbose", "long"], ["commas"],
    ["horizontal", "across"], ["vertical"], ["single-column"]]
  let signs ← lastChoice o "indicator" "--indicator-style" [["none"], ["slash"], ["file-type"],
    ["classify"]]
  let style ← lastChoice o "style" "--quoting-style" [["literal"], ["shell"], ["shell-always"],
    ["shell-escape"], ["shell-escape-always"], ["c"], ["c-maybe"], ["escape"], ["locale"],
    ["clocale"]]
  let answers := [["always", "yes", "force"], ["never", "no", "none"], ["auto", "tty", "if-tty"]]
  if (o.value? "color").any (· ≠ "") then
    let _ ← lastChoice o "color" "--color" answers
  let classifies ← if (o.value? "classify").any (· ≠ "") then
      lastChoice o "classify" "--classify" answers
    else pure ((o.value? "classify").map fun _ => "always")
  let width ← match o.value? "w" with
    | none => pure (((s.environment.lookup "COLUMNS").bind String.toNat?).getD 80)
    | some text =>
      match Number.size? "" text with
      | .ok n => pure n
      | .error _ => throw { text := "invalid line width: " ++ Quoting.word text }
  let layoutKeys := ["1", "l", "m", "x", "C", "g", "n", "o", "format", "full-time"]
  let layout : Layout := match o.last? layoutKeys with
    | some ("l", _) | some ("g", _) | some ("n", _) | some ("o", _) | some ("full-time", _) => .long
    | some ("m", _) => .commas
    | some ("x", _) => .across
    | some ("C", _) => .down
    | some ("format", _) =>
      match format with
      | some "verbose" => .long
      | some "commas" => .commas
      | some "horizontal" => .across
      | some "vertical" => .down
      | _ => .single
    | some ("1", _) =>
      if ["l", "g", "n", "o", "full-time"].any o.has then .long else .single
    | _ => .single
  let sortKeys := ["S", "t", "U", "X", "v", "f", "sort"]
  let sorting : Sorting := match o.last? sortKeys with
    | some ("S", _) => .size
    | some ("t", _) => .time
    | some ("U", _) | some ("f", _) => .none
    | some ("X", _) => .ending
    | some ("v", _) => .version
    | some (_, _) =>
      match sorting with
      | some "none" => .none
      | some "time" => .time
      | some "size" => .size
      | some "extension" => .ending
      | some "version" => .version
      | _ => .width
    | none => if (o.has "c" || o.has "u") && layout ≠ .long then .time else .name
  let hidden := (o.last? ["a", "A", "f"]).map Prod.fst
  let styleKeys := ["b", "N", "Q", "q", "style", "show-control"]
  let nameStyle : NameStyle := match o.last? styleKeys with
    | some ("b", _) => .escaped
    | some ("Q", _) => .quoted
    | some ("q", _) => .masked
    | some ("style", _) =>
      match style with
      | some "literal" => .literal
      | some "c" | some "locale" | some "clocale" => .quoted
      | some "escape" => .escaped
      | some "shell-always" | some "shell-escape-always" => .shellAlways
      | some _ => .shell
      | none => .literal
    | _ => .literal
  let timeFormat ← if o.has "full-time" then pure (some "%Y-%m-%d %H:%M:%S.000000000 +0000") else
    match o.value? "time-style" with
    | none => pure none
    | some text =>
      match text.toList with
      | '+' :: cs => pure (some (String.ofList cs))
      | _ =>
        match Options.choice "time style"
          [["full-iso"], ["long-iso"], ["iso"], ["locale"]] text with
        | .ok "full-iso" => pure (some "%Y-%m-%d %H:%M:%S.000000000 +0000")
        | .ok "long-iso" => pure (some "%Y-%m-%d %H:%M")
        | .ok "iso" => pure (some "%m-%d %H:%M")
        | .ok _ => pure none
        | .error text => throw { text, hasHint := true }
  return {
    layout, sorting, width, timeFormat
    isReversed := o.has "r"
    directoriesFirst := o.has "group"
    style := nameStyle
    signs := match o.last? ["F", "classify", "p", "file-type", "indicator"] with
      | some ("F", _) => 3
      | some ("classify", _) => if classifies = some "always" then 3 else 0
      | some ("p", _) => 1
      | some ("file-type", _) => 2
      | some (_, _) =>
        match signs with
        | some "slash" => 1
        | some "file-type" => 2
        | some "classify" => 3
        | _ => 0
      | none => 0
    showsHidden := hidden.isSome
    showsDots := hidden = some "a" || hidden = some "f"
    showsBlocks := o.has "s"
    showsNumbers := o.has "i"
    isDeep := o.has "R" && !o.has "d"
    asItems := o.has "d"
    followsLinks := o.has "L"
    isHuman := o.has "h" || o.has "si"
    showsOwner := !o.has "g"
    showsGroup := !o.has "o" && !o.has "G"
    hasNumbersForNames := o.has "n"
    ignored := ((o.given.filter fun x => x.1 = "I" || (x.1 = "hide" && hidden.isNone)).map
      Prod.snd) ++ if o.has "B" then ["*~"] else []
    hasZeros := o.has "zero" }

end ListingPlan

/-- Lists what is in directories. -/
def ls : Tool := fun s =>
  let table : OptionTable :=
    { letters := "abcdfghiklmnopqrstuvw:xABCDFGHI:LNQRST:UXZ1"
      names := [("all", .nothing, "a"), ("escape", .nothing, "b"), ("directory", .nothing, "d"),
        ("dired", .nothing, "D"), ("full-time", .nothing, "full-time"),
        ("group-directories-first", .nothing, "group"), ("human-readable", .nothing, "h"),
        ("inode", .nothing, "i"), ("kibibytes", .nothing, "k"),
        ("numeric-uid-gid", .nothing, "n"), ("no-group", .nothing, "G"),
        ("hide-control-chars", .nothing, "q"), ("reverse", .nothing, "r"), ("size", .nothing, "s"),
        ("width", .value, "w"), ("almost-all", .nothing, "A"), ("ignore-backups", .nothing, "B"),
        ("classify", .perhaps, "classify"), ("file-type", .nothing, "file-type"),
        ("si", .nothing, "si"), ("dereference-command-line", .nothing, "H"),
        ("dereference-command-line-symlink-to-dir", .nothing, "H"), ("hide", .value, "hide"),
        ("ignore", .value, "I"), ("indicator-style", .value, "indicator"),
        ("dereference", .nothing, "L"), ("literal", .nothing, "N"), ("quote-name", .nothing, "Q"),
        ("quoting-style", .value, "style"), ("recursive", .nothing, "R"),
        ("format", .value, "format"), ("show-control-chars", .nothing, "show-control"),
        ("sort", .value, "sort"), ("tabsize", .value, "T"), ("time", .value, "time"),
        ("time-style", .value, "time-style"), ("zero", .nothing, "zero"),
        ("color", .perhaps, "color"), ("hyperlink", .perhaps, "hyperlink"),
        ("block-size", .value, "block"), ("context", .nothing, "Z"), ("author", .nothing, "author")]
      usage := "[OPTION]... [FILE]..." }
  s.withOptions table 2 fun o =>
    match ListingPlan.ofOptions o s with
    | .error r => s.refuse 2 r
    | .ok plan =>
      let names := if o.words.isEmpty then ["."] else o.words
      let showsLink := plan.layout = .long || plan.signs ≥ 3 || plan.asItems
      let look (name : String) : Except FileError (Location × Node) :=
        let link := s.files.lookupLink s.directory (pathOf name)
        match s.files.lookup s.directory (pathOf name) with
        | .ok x => if showsLink && !plan.followsLinks && !o.has "H" then link else .ok x
        | .error .notFound => if plan.followsLinks then .error .notFound else link
        | .error e => .error e
      let (items, p) := names.foldl (fun (items, p) name =>
        match look name with
        | .ok (l, node) => (Item.ofNode s.files name l node :: items, p)
        | .error e =>
          (items, p.complain s 2 ("cannot access " ++ Quoting.name name ++ ": " ++ e.reason)))
        (([] : List Item), Progress.start s)
      let items := plan.sort items.reverse
      let isListed (x : Item) : Bool := x.node = .directory && !plan.asItems
      let single := items.filter fun x => !isListed x
      let hasTitle := names.length > 1 || plan.isDeep
      let lists := (items.filter isListed).flatMap fun x =>
        plan.listDirectory s.files depthLimit hasTitle x.name x.location
      let parts := (if single.isEmpty then [] else [plan.write s.files single]) ++ lists
      (p.print ("\n".intercalate parts)).ending

end Gutter.Shell.Tool
