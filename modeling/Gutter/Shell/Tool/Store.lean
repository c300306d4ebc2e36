import Gutter.Shell.Date
import Gutter.Shell.Rights
import Gutter.Shell.Tool

/-!
# Programs that change files

Making files, directories and links, taking them away, and changing what is known of them.
-/

namespace Gutter.Shell

namespace Progress

def ask (s : Supply) (question : String) (p : Progress) : Bool × Progress :=
  let p := p.write 2 (Text.Octets.toBytes (s.name ++ ": " ++ question))
  let rest := s.inputBytes.drop p.consumed
  let line := rest.takeWhile (· ≠ 0x0A)
  (line.head?.any fun b => b = 0x59 || b = 0x79,
    { p with consumed := p.consumed + min rest.length (line.length + 1) })

/-- Goes through names; the program ends with what has been done for all of them. -/
def through (names : List String) (step : String → Progress → Progress) (s : Supply) : Ending :=
  (names.foldl (fun p name => step name p) (Progress.start s)).ending

end Progress

namespace Tool

/-! ## Names -/

def withoutSlashes (name : String) : String :=
  let cs := name.toList.reverse.dropWhile (· = '/')
  if cs.isEmpty && !name.isEmpty then "/" else String.ofList cs.reverse

def lastPart (name : String) : String :=
  String.ofList ((withoutSlashes name).toList.reverse.takeWhile (· ≠ '/')).reverse

def inside (directory name : String) : String :=
  if directory.endsWith "/" then directory ++ name else directory ++ "/" ++ name

def pathText (l : Location) : String :=
  if l.isEmpty then "/" else String.join (l.map fun name => "/" ++ Text.Octets.ofBytes name)

def kindOf : Node → String
  | .file [] => "regular empty file"
  | .file _ | .program _ => "regular file"
  | .directory => "directory"
  | .link _ => "symbolic link"
  | .device _ => "character special file"
  | .stream _ => "fifo"

/-- The starts of a path that end with a name. -/
def pathStarts (name : String) : List String :=
  let rec go (start : List Char) : (fuel : Nat) → List Char → List String
    | 0, _ => []
    | _, [] => []
    | fuel + 1, cs =>
      let slashes := cs.takeWhile (· = '/')
      let rest := cs.drop slashes.length
      let part := rest.takeWhile (· ≠ '/')
      let path := start ++ slashes ++ part
      let after := rest.drop part.length
      if part.isEmpty then []
      else if after.all (· = '/') then [String.ofList (path ++ after)]
      else String.ofList path :: go path fuel after
  go [] (name.length + 1) name.toList

def newPlace (files : Files) (s : Supply) (name : String) : Except FileError Location := do
  let l ← files.locateAs false s.directory (pathOf name)
  if (files.node? l).isSome then .error .exists else .ok l

/-! ## Taking away -/

/-- How the removal of something goes on. -/
structure Removal where
  isForced : Bool
  isDeep : Bool
  takesEmpty : Bool
  isLoud : Bool
  asks : Bool

/-- Removes what is at a location, with all that is in it. -/
def remove (r : Removal) (s : Supply) :
    (fuel : Nat) → (name : String) → Location → Node → Progress → Progress
  | 0, _, _, _, p => p
  | fuel + 1, name, l, node, p =>
    let isDirectory : Bool := node = .directory
    let say (text : String) (p : Progress) : Progress :=
      if r.isLoud then p.print (text ++ Quoting.name name ++ "\n") else p
    let question (verb : String) : String := verb ++ kindOf node ++ " " ++ Quoting.name name ++ "? "
    let take (p : Progress) : Progress :=
      say (if isDirectory then "removed directory " else "removed ")
        { p with files := p.files.erase l }
    if !isDirectory then
      if !r.asks then take p
      else
        let (isWanted, p) := p.ask s (question "remove ")
        if isWanted then take p else p
    else
      let names := p.files.children l
      let (descends, p) := if r.asks && !names.isEmpty then p.ask s (question "descend into ")
        else (true, p)
      if !descends then p
      else
        let p := names.foldl (fun p child =>
          let inner := l ++ [child]
          (p.files.node? inner).elim p fun node =>
            remove r s fuel (inside name (Text.Octets.ofBytes child)) inner node p) p
        if !(p.files.children l).isEmpty then
          if r.asks then p
          else p.complain s 1 ("cannot remove " ++ Quoting.name name ++ ": Directory not empty")
        else if !r.asks then take p
        else
          let (isWanted, p) := p.ask s (question "remove ")
          if isWanted then take p else p

def depthLimit : Nat := 4096

/-- Takes files away, and directories if they may go with all that is in them. -/
def rm : Tool := fun s =>
  let table : OptionTable :=
    { letters := "dfirvIR"
      names := [("force", .nothing, "f"), ("interactive", .perhaps, "interactive"),
        ("one-file-system", .nothing, "one"), ("no-preserve-root", .nothing, "noroot"),
        ("preserve-root", .perhaps, "root"), ("recursive", .nothing, "r"), ("dir", .nothing, "d"),
        ("verbose", .nothing, "v")]
      usage := "[OPTION]... [FILE]..." }
  s.withOptions table 1 fun o =>
    let manner := (o.last? ["f", "i", "I", "interactive"]).map fun x =>
      match x with
      | ("interactive", "") | ("interactive", "always") | ("interactive", "yes") => "i"
      | ("interactive", "once") => "I"
      | ("interactive", _) => "never"
      | (key, _) => key
    let r : Removal :=
      { isForced := manner = some "f", isDeep := o.has "r" || o.has "R", takesEmpty := o.has "d"
        isLoud := o.has "v", asks := manner = some "i" }
    let names := o.words
    let asksOnce := manner = some "I" && (r.isDeep || names.length > 3)
    let count := toString names.length ++ " argument" ++ (if names.length = 1 then "" else "s")
    let once := "remove " ++ count ++ (if r.isDeep then " recursively? " else "? ")
    if names.isEmpty then if r.isForced then s.finish 0 else s.misuse 1 "missing operand"
    else
      let (goesOn, p) := if asksOnce then (Progress.start s).ask s once
        else (true, Progress.start s)
      if !goesOn then p.ending
      else
        (names.foldl (fun p name =>
          let refuse (e : FileError) : Progress :=
            p.complain s 1 ("cannot remove " ++ Quoting.name name ++ ": " ++ e.reason)
          match p.files.lookupLink s.directory (pathOf name) with
          | .error e =>
            if r.isForced && (e = .notFound || e = .notDirectory) then p else refuse e
          | .ok (l, .directory) =>
            if !r.isDeep && !(r.takesEmpty && (p.files.children l).isEmpty) then
              refuse (if r.takesEmpty then .notEmpty else .isDirectory)
            else if lastPart name = "." || lastPart name = ".." then
              p.complain s 1 ("refusing to remove '.' or '..' directory: skipping " ++
                Quoting.name (withoutSlashes name))
            else if l.isEmpty then
              (p.complain s 1 "it is dangerous to operate recursively on '/'").complain s 1
                "use --no-preserve-root to override this failsafe"
            else remove r s depthLimit (withoutSlashes name) l .directory p
          | .ok (l, node) => remove r s depthLimit name l node p) p).ending

/-- Takes empty directories away, perhaps with those around them. -/
def rmdir : Tool := fun s =>
  let table : OptionTable :=
    { letters := "pv"
      names := [("ignore-fail-on-non-empty", .nothing, "ignore"), ("path", .nothing, "p"),
        ("parents", .nothing, "p"), ("verbose", .nothing, "v")]
      usage := "[OPTION]... DIRECTORY..." }
  s.withOptions table 1 fun o =>
    if o.words.isEmpty then s.misuse 1 "missing operand"
    else
      Progress.through o.words (fun name p =>
        let paths := if o.has "p" then
            name :: ((pathStarts (withoutSlashes name)).dropLast).reverse
          else [name]
        (paths.foldl (fun (isGoing, p) path =>
          if !isGoing then (false, p)
          else
            let p := if o.has "v" then
                p.print ("rmdir: removing directory, " ++ Quoting.name path ++ "\n")
              else p
            let refuse (e : FileError) : Bool × Progress :=
              if e = .notEmpty && o.has "ignore" then (false, p)
              else
                let what := if path = name then "failed to remove "
                  else "failed to remove directory "
                (false, p.complain s 1 (what ++ Quoting.name path ++ ": " ++ e.reason))
            match p.files.lookupLink s.directory (pathOf path) with
            | .ok (l, .directory) =>
              if lastPart path = "." then refuse .invalid
              else if (p.files.children l).isEmpty then
                (true, { p with files := p.files.erase l })
              else refuse .notEmpty
            | .ok _ => refuse .notDirectory
            | .error e => refuse e) (true, p)).2) s

/-- Takes a file away. -/
def unlink : Tool := fun s =>
  s.withOptions { usage := "FILE" } 1 fun o =>
    match o.words with
    | [] => s.misuse 1 "missing operand"
    | _ :: word :: _ => s.misuse 1 ("extra operand " ++ Quoting.word word)
    | [name] =>
      let refuse (e : FileError) : Ending :=
        s.fail 1 ("cannot unlink " ++ Quoting.name name ++ ": " ++ e.reason)
      match s.files.lookupLink s.directory (pathOf name) with
      | .ok (_, .directory) => refuse .isDirectory
      | .ok (l, _) => { s.finish 0 with files := s.files.erase l }
      | .error e => refuse e

/-! ## Making -/

def makeDirectory (mode : Nat) (l : Location) (files : Files) : Files :=
  let files := files.makeDirectory l
  if mode = 0o755 then files else files.setMode l mode

/-- Makes directories, with those around them if they are wanted. -/
def mkdir : Tool := fun s =>
  let table : OptionTable :=
    { letters := "pm:vZ"
      names := [("mode", .value, "m"), ("parents", .nothing, "p"), ("verbose", .nothing, "v"),
        ("context", .perhaps, "Z")]
      usage := "[OPTION]... DIRECTORY..." }
  s.withOptions table 1 fun o =>
    let plain := 0o777 &&& (0o777 ^^^ s.mask % 0o1000)
    let usual := plain ||| 0o300
    let mode := (o.value? "m").elim (some plain)
      fun text => (RightsChange.ofText? text).map fun c => c.apply true s.mask 0o777
    match o.words, mode with
    | [], _ => s.misuse 1 "missing operand"
    | _, none => s.fail 1 ("invalid mode " ++ Quoting.word ((o.value? "m").getD ""))
    | names, some mode =>
      let make (path : String) (mode : Nat) (l : Location) (p : Progress) : Progress :=
        let p := { p with files := makeDirectory mode l p.files }
        if o.has "v" then p.print ("mkdir: created directory " ++ Quoting.name path ++ "\n") else p
      Progress.through names (fun name p =>
        let paths := if o.has "p" && !name.isEmpty then pathStarts name else [name]
        (paths.foldl (fun (isGoing, p) path =>
          let isLast : Bool := path = paths.getLast?.getD ""
          let refuse (e : FileError) : Bool × Progress :=
            (false, p.complain s 1
              ("cannot create directory " ++ Quoting.name path ++ ": " ++ e.reason))
          if !isGoing then (false, p)
          else
            match newPlace p.files s path, p.files.lookup s.directory (pathOf path) with
            | .ok l, _ => (true, make path (if isLast then mode else usual) l p)
            | .error .exists, .ok (_, .directory) =>
              if o.has "p" then (true, p) else refuse .exists
            | .error .exists, _ => refuse (if isLast then .exists else .notDirectory)
            | .error e, _ => refuse e) (true, p)).2) s

/-- Makes files where there are none, and sets the times of those that are there. -/
def touch : Tool := fun s =>
  let table : OptionTable :=
    { letters := "acd:fhmr:t:"
      names := [("time", .value, "time"), ("no-create", .nothing, "c"), ("date", .value, "d"),
        ("reference", .value, "r"), ("no-dereference", .nothing, "h")]
      usage := "[OPTION]... FILE..." }
  s.withOptions table 1 fun o =>
    let time : Except String (Option Int) :=
      match o.value? "r", o.value? "t", o.value? "d" with
      | some file, _, _ =>
        match s.files.lookup s.directory (pathOf file) with
        | .ok (l, _) => .ok (s.files.times.lookup l)
        | .error e =>
          .error ("failed to get attributes of " ++ Quoting.name file ++ ": " ++ e.reason)
      | none, some stamp, _ =>
        match Date.readStamp? stamp with
        | some t => .ok (some t)
        | none => .error ("invalid date format " ++ Quoting.word stamp)
      | none, none, some text =>
        match Date.read? text with
        | some t => .ok (some t)
        | none => .error ("invalid date format " ++ Quoting.word text)
      | none, none, none => .ok none
    match time, o.words with
    | .error e, _ => s.fail 1 e
    | .ok _, [] => s.misuse 1 "missing file operand"
    | .ok time, names =>
      let mark (l : Location) (p : Progress) : Progress :=
        let files := match time with
          | some t => p.files.setTime l t
          | none => { p.files with times := p.files.times.filter (·.1 ≠ l) }
        { p with files }
      Progress.through names (fun name p =>
        let found := if o.has "h" then p.files.lookupLink s.directory (pathOf name)
          else p.files.lookup s.directory (pathOf name)
        match found with
        | .ok (l, _) => if o.has "a" && !o.has "m" then p else mark l p
        | .error e =>
          let isSlashed := name.endsWith "/"
          if o.has "c" && e = .notFound then p
          else if isSlashed && (e = .notFound || e = .notDirectory) then
            p.complain s 1 ("setting times of " ++ Quoting.name name ++ ": " ++ e.reason)
          else
            match s.store name true [] p with
            | .ok p =>
              match p.files.locate s.directory (pathOf name) with
              | .ok l => mark l p
              | .error _ => p
            | .error e => p.complain s 1 ("cannot touch " ++ Quoting.name name ++ ": " ++ e.reason))
        s

/-- Makes links: ones with paths of their own, or second names of files. -/
def ln : Tool := fun s =>
  let table : OptionTable :=
    { letters := "bdfinrst:vFLPS:T"
      names := [("backup", .perhaps, "b"), ("directory", .nothing, "d"),
        ("no-dereference", .nothing, "n"), ("no-target-directory", .nothing, "T"),
        ("force", .nothing, "f"), ("interactive", .nothing, "i"), ("suffix", .value, "S"),
        ("target-directory", .value, "t"), ("logical", .nothing, "L"), ("physical", .nothing, "P"),
        ("relative", .nothing, "r"), ("symbolic", .nothing, "s"), ("verbose", .nothing, "v")]
      usage := "[OPTION]... [-T] TARGET LINK_NAME" }
  s.withOptions table 1 fun o =>
    let isSymbolic := o.has "s"
    let link (source target : String) (p : Progress) : Progress :=
      let old := p.files.lookupLink s.directory (pathOf source)
      let refuse (e : FileError) : Progress :=
        p.complain s 1 <|
          if isSymbolic then
            "failed to create symbolic link " ++ Quoting.name target ++ ": " ++ e.reason
          else if e = .exists then
            "failed to create hard link " ++ Quoting.name target ++ ": " ++ e.reason
          else
            "failed to create hard link " ++ Quoting.name target ++ " => " ++
              Quoting.name source ++ ": " ++ e.reason
      let node : Except String Node :=
        if isSymbolic then .ok (.link (pathOf source))
        else
          match old with
          | .error e => .error ("failed to access " ++ Quoting.name source ++ ": " ++ e.reason)
          | .ok (_, .directory) =>
            .error (Quoting.plainName source ++ ": hard link not allowed for directory")
          | .ok (_, node) => .ok node
      let there := p.files.lookupLink s.directory (pathOf target)
      let isSame := !isSymbolic && match old, there with
        | .ok (l, _), .ok (m, _) => l = m
        | _, _ => false
      let cleared := match there with
        | .ok (l, node) => if o.has "f" && node ≠ .directory then p.files.erase l else p.files
        | .error _ => p.files
      match node, newPlace cleared s target with
      | .error text, _ => p.complain s 1 text
      | .ok node, .ok l =>
        if isSame then
          p.complain s 1 (Quoting.name source ++ " and " ++ Quoting.name target ++
            " are the same file")
        else
          let p := { p with files := cleared.put l node }
          if o.has "v" then
            p.print (Quoting.name target ++ (if isSymbolic then " -> " else " => ") ++
              Quoting.name source ++ "\n")
          else p
      | .ok _, .error e => refuse e
    let directory? (name : String) : Except FileError Bool :=
      let found := if o.has "n" then s.files.lookupLink s.directory (pathOf name)
        else s.files.lookup s.directory (pathOf name)
      found.map fun x => x.2 = .directory
    let into (directory : String) (sources : List String) : Ending :=
      Progress.through sources (fun source => link source (inside directory (lastPart source))) s
    match o.words, o.value? "t" with
    | [], _ => s.misuse 1 "missing file operand"
    | sources, some directory =>
      match directory? directory with
      | .ok true => into directory sources
      | .ok false => s.fail 1 ("target " ++ Quoting.name directory ++ ": Not a directory")
      | .error e => s.fail 1 ("target directory " ++ Quoting.name directory ++ ": " ++ e.reason)
    | [source], none =>
      if o.has "T" then
        s.misuse 1 ("missing destination file operand after " ++ Quoting.name source)
      else into "." [source]
    | [source, target], none =>
      if !o.has "T" && (directory? target).toOption = some true then into target [source]
      else (link source target (Progress.start s)).ending
    | sources, none =>
      let directory := sources.getLast?.getD ""
      if o.has "T" then s.misuse 1 ("extra operand " ++ Quoting.name (sources[2]?.getD ""))
      else
        match directory? directory with
        | .ok true => into directory sources.dropLast
        | .ok false => s.fail 1 ("target " ++ Quoting.name directory ++ ": Not a directory")
        | .error e => s.fail 1 ("target " ++ Quoting.name directory ++ ": " ++ e.reason)

/-- Gives a file a second name. -/
def hardLink : Tool := fun s =>
  s.withOptions { usage := "FILE1 FILE2" } 1 fun o =>
    match o.words with
    | [] => s.misuse 1 "missing operand"
    | [word] => s.misuse 1 ("missing operand after " ++ Quoting.word word)
    | _ :: _ :: word :: _ => s.misuse 1 ("extra operand " ++ Quoting.word word)
    | [source, target] =>
      let refuse (e : FileError) : Ending :=
        s.fail 1 ("cannot create link " ++ Quoting.name target ++ " to " ++ Quoting.name source ++
          ": " ++ e.reason)
      match s.files.lookupLink s.directory (pathOf source), newPlace s.files s target with
      | .ok (_, .directory), _ => refuse .notPermitted
      | .ok (_, node), .ok l => { s.finish 0 with files := s.files.put l node }
      | .error e, _ | _, .error e => refuse e

/-- Makes a file or a directory with a name that nothing has. -/
def mktemp : Tool := fun s =>
  let table : OptionTable :=
    { letters := "dp:qtuV"
      names := [("directory", .nothing, "d"), ("quiet", .nothing, "q"), ("dry-run", .nothing, "u"),
        ("suffix", .value, "suffix"), ("tmpdir", .perhaps, "p")]
      usage := "[OPTION]... [TEMPLATE]" }
  s.withOptions table 1 fun o =>
    let usual := (s.environment.lookup "TMPDIR").filter (· ≠ "") |>.getD "/tmp"
    let template := o.words.headD "tmp.XXXXXXXXXX"
    let suffix := (o.value? "suffix").getD ""
    let cs := template.toList.reverse
    let ending := if o.has "suffix" then [] else cs.takeWhile (· ≠ 'X')
    let marks := (cs.drop ending.length).takeWhile (· = 'X')
    let start := String.ofList (cs.drop (ending.length + marks.length)).reverse
    let ending := String.ofList ending.reverse ++ suffix
    let isPlaced := o.words.isEmpty || o.has "p" || o.has "t"
    let around := match o.value? "p" with
      | some "" | none => usual
      | some directory => directory
    let fail (text : String) : Ending := if o.has "q" then s.finish 1 else s.fail 1 text
    if o.words.length > 1 then s.misuse 1 "too many templates"
    else if marks.length < 3 then
      s.fail 1 ("too few X's in template " ++ Quoting.name template)
    else
      let letter (n i : Nat) : Char :=
        Char.ofNat ('a'.toNat + (n * 7 + i * 11 + n / Nat.pow 26 i) % 26)
      let name (n : Nat) : String :=
        let own := start ++ String.ofList ((List.range marks.length).map (letter n)) ++ ending
        if isPlaced then inside around own else own
      let free := (List.range 1000).find? fun n =>
        !(s.files.lookupLink s.directory (pathOf (name n))).isOk
      let path := name (free.getD 0)
      match newPlace s.files s path with
      | .error e =>
        let what := if o.has "d" then "directory" else "file"
        let whole := if isPlaced then inside around template else template
        fail ("failed to create " ++ what ++ " via template " ++ Quoting.name (whole ++ suffix) ++
          ": " ++ e.reason)
      | .ok l =>
        let files := if o.has "u" then s.files
          else if o.has "d" then makeDirectory 0o700 l s.files
          else s.files.create 0o600 l []
        { s.print (path ++ "\n") with files }

/-! ## Contents -/

/-- Writes the input to files and to the output. -/
def tee : Tool := fun s =>
  let table : OptionTable :=
    { letters := "aip"
      names := [("append", .nothing, "a"), ("ignore-interrupts", .nothing, "i"),
        ("output-error", .perhaps, "p")]
      usage := "[OPTION]... [FILE]..." }
  s.withOptions table 1 fun o =>
    let input := s.inputBytes
    let p := (Progress.start s).write 1 input
    let p := o.words.foldl (fun p name =>
      match s.store name (o.has "a") input p with
      | .ok p => p
      | .error e => p.complain s 1 (Quoting.plainName name ++ ": " ++ e.reason)) p
    let p := match s.input with
      | .ok _ => p
      | .error e =>
        let p := p.complain s 1 ("read error: " ++ e.reason)
        if e = FileError.badDescriptor then p.complain s 1 ("standard input: " ++ e.reason) else p
    { p with consumed := input.length }.ending

/-- The size that a file gets by a rule: a sign that says how a number is used, and the number. -/
def newSize (sign : Option Char) (n old : Nat) : Nat :=
  match sign with
  | some '+' => old + n
  | some '-' => old - n
  | some '<' => min old n
  | some '>' => max old n
  | some '/' => if n = 0 then old else old / n * n
  | some '%' => if n = 0 then old else (old + n - 1) / n * n
  | _ => n

/-- Makes files shorter or longer. -/
def truncate : Tool := fun s =>
  let table : OptionTable :=
    { letters := "cor:s:"
      names := [("no-create", .nothing, "c"), ("io-blocks", .nothing, "o"),
        ("reference", .value, "r"), ("size", .value, "s")]
      usage := "OPTION... FILE..." }
  s.withOptions table 1 fun o =>
    let text := (o.value? "s").getD "+0"
    let cs := text.toList.dropWhile (· = ' ')
    let sign := cs.head?.filter (· ∈ ['+', '-', '<', '>', '/', '%'])
    let digits := String.ofList (if sign.isSome then cs.tail else cs)
    let base := (o.value? "r").map fun file =>
      (s.files.lookup s.directory (pathOf file)).map fun x =>
        ((s.files.contents? x.1).getD []).length
    if !o.has "s" && !o.has "r" then
      s.misuse 1 "you must specify either '--size' or '--reference'"
    else
      match Number.size? "KMGTPEZYRQ0kmgt" digits, base, o.words with
      | .error fault, _, _ =>
        s.fail 1 ("Invalid number: " ++ Quoting.word text ++ fault.reason)
      | _, some (.error e), _ =>
        s.fail 1 ("cannot stat " ++ Quoting.name ((o.value? "r").getD "") ++ ": " ++ e.reason)
      | .ok _, _, [] => s.misuse 1 "missing file operand"
      | .ok n, base, names =>
        Progress.through names (fun name p =>
          match p.files.lookup s.directory (pathOf name), s.store name true [] p with
          | .error .notFound, _ =>
            if o.has "c" then p
            else
              match s.store name false (List.replicate (newSize sign n 0) 0) p with
              | .ok p => p
              | .error e =>
                p.complain s 1 ("cannot open " ++ Quoting.name name ++ " for writing: " ++ e.reason)
          | _, .error e =>
            p.complain s 1 ("cannot open " ++ Quoting.name name ++ " for writing: " ++ e.reason)
          | .error _, .ok p => p
          | .ok (l, _), .ok p =>
            match p.files.contents? l with
            | none => p
            | some old =>
              let known := match base with
                | some (.ok size) => size
                | _ => old.length
              let size := if o.has "s" then newSize sign n known else known
              let contents := old.take size ++ List.replicate (size - old.length) 0
              { p with files := p.files.insert l contents }) s

/-! ## Rights -/

/-- The arguments without those that are changes of rights although they start with a dash, and the
change that these make together. -/
def takeRights : List String → List String × List String
  | [] => ([], [])
  | "--" :: args => ("--" :: args, [])
  | arg :: args =>
    let (rest, changes) := takeRights args
    match arg.toList with
    | '-' :: c :: _ =>
      if c ∈ "rwxXstugoa,+=01234567".toList then (rest, arg :: changes) else (arg :: rest, changes)
    | _ => (arg :: rest, changes)

/-- Changes the rights to files, perhaps to all files in directories. -/
def chmod : Tool := fun s =>
  let table : OptionTable :=
    { letters := "Rcfv"
      names := [("changes", .nothing, "c"), ("recursive", .nothing, "R"),
        ("no-preserve-root", .nothing, "noroot"), ("preserve-root", .nothing, "root"),
        ("quiet", .nothing, "f"), ("reference", .value, "reference"), ("silent", .nothing, "f"),
        ("verbose", .nothing, "v")]
      usage := "[OPTION]... MODE[,MODE]... FILE..." }
  let (args, changes) := takeRights s.args
  let s := { s with args }
  s.withOptions table 1 fun o =>
    let isOption := !changes.isEmpty
    let text := if isOption then ",".intercalate changes else o.words.headD ""
    let names := if isOption || o.has "reference" then o.words else o.words.drop 1
    let change : Except Refusal RightsChange :=
      match o.value? "reference" with
      | some file =>
        match s.files.lookup s.directory (pathOf file) with
        | .ok (l, _) => .ok [⟨0o7777, '=', .bits (s.files.mode l) false⟩]
        | .error e =>
          .error { text := "failed to get attributes of " ++ Quoting.name file ++ ": " ++ e.reason }
      | none =>
        match RightsChange.ofText? text with
        | some change => .ok change
        | none => .error { text := "invalid mode: " ++ Quoting.word text, hasHint := true }
    if names.isEmpty then
      let last := changes.getLast? <|> o.words.getLast?
      s.misuse 1 (match last with
        | some word => "missing operand after " ++ Quoting.word word
        | none => "missing operand")
    else
      match change with
      | .error r => s.refuse 1 r
      | .ok change =>
        let set (name : String) (l : Location) (node : Node) (p : Progress) : Progress :=
          let old := p.files.mode l
          let isDirectory : Bool := node = .directory
          let new := change.apply isDirectory s.mask old
          let p := if new = old then p else { p with files := p.files.setMode l new }
          let shown (mode : Nat) : String := rightsDigits mode ++ " (" ++ rightsText mode ++ ")"
          let p :=
            if old ≠ new && (o.has "v" || o.has "c") then
              p.print ("mode of " ++ Quoting.name name ++ " changed from " ++ shown old ++ " to " ++
                shown new ++ "\n")
            else if o.has "v" then
              p.print ("mode of " ++ Quoting.name name ++ " retained as " ++ shown old ++ "\n")
            else p
          let naive := change.apply isDirectory 0 old
          if isOption && new &&& (0o7777 ^^^ naive) ≠ 0 then
            p.complain s 1 (Quoting.plainName name ++ ": new permissions are " ++ rightsText new ++
              ", not " ++ rightsText naive)
          else p
        let rec each : (fuel : Nat) → String → Location → Node → Progress → Progress
          | 0, _, _, _, p => p
          | fuel + 1, name, l, node, p =>
            let p := set name l node p
            if node ≠ .directory || !o.has "R" then p
            else
              (p.files.children l).foldl (fun p child =>
                let inner := l ++ [child]
                match p.files.node? inner with
                | none | some (.link _) => p
                | some node => each fuel (inside name (Text.Octets.ofBytes child)) inner node p) p
        Progress.through names (fun name p =>
          match p.files.lookup s.directory (pathOf name) with
          | .ok (l, node) => each depthLimit name l node p
          | .error e =>
            if o.has "f" then { p with status := 1 }
            else
              match p.files.lookupLink s.directory (pathOf name), e with
              | .ok (_, .link _), .notFound =>
                p.complain s 1 ("cannot operate on dangling symlink " ++ Quoting.name name)
              | _, e => p.complain s 1 ("cannot access " ++ Quoting.name name ++ ": " ++ e.reason))
          s

/-! ## Where things are -/

/-- What has to be there of a path whose links are followed. -/
inductive Presence where
  | all
  | allButLast
  | nothing
  deriving DecidableEq

/-- The location of a path of which perhaps not all is there. -/
def canonical (presence : Presence) (files : Files) (s : Supply) (name : String) :
    Except FileError Location :=
  let whole := files.locate s.directory (pathOf name)
  let strict := files.lookup s.directory (pathOf name)
  match presence with
  | .all => strict.map Prod.fst
  | .allButLast =>
    match strict with
    | .ok (l, _) => .ok l
    | .error .notFound => whole
    | .error e => .error e
  | .nothing =>
    if name.isEmpty then .error .notFound
    else
      let rec go : Location → List Path.Component → Location
        | l, [] => l
        | _, .root :: cs => go [] cs
        | l, .current :: cs => go l cs
        | l, .parent :: cs => go l.dropLast cs
        | l, .normal part :: cs =>
          match files.locate l ⟨part⟩ with
          | .ok l => go l cs
          | .error _ => go (l ++ [part]) cs
      .ok (go s.directory (pathOf name).components)

/-- Writes what links lead to, or where paths end. -/
def readlink : Tool := fun s =>
  let table : OptionTable :=
    { letters := "efmnqsvz"
      names := [("canonicalize", .nothing, "f"), ("canonicalize-existing", .nothing, "e"),
        ("canonicalize-missing", .nothing, "m"), ("no-newline", .nothing, "n"),
        ("quiet", .nothing, "q"), ("silent", .nothing, "s"), ("verbose", .nothing, "v"),
        ("zero", .nothing, "z")]
      usage := "[OPTION]... FILE..." }
  s.withOptions table 1 fun o =>
    let mode := (o.last? ["e", "f", "m"]).map Prod.fst
    let isLoud := (o.last? ["q", "s", "v"]).any (·.1 = "v") ||
      (s.environment.any (·.1 = "POSIXLY_CORRECT"))
    let ending := if o.has "z" then "\x00" else if o.has "n" && o.words.length ≤ 1 then "" else "\n"
    if o.words.isEmpty then s.misuse 1 "missing operand"
    else
      Progress.through o.words (fun name p =>
        let found : Except FileError String :=
          match mode with
          | some "e" => (canonical .all p.files s name).map pathText
          | some "m" => (canonical .nothing p.files s name).map pathText
          | some _ => (canonical .allButLast p.files s name).map pathText
          | none =>
            match p.files.lookupLink s.directory (pathOf name) with
            | .ok (_, .link target) => .ok (Text.Octets.ofBytes target.bytes)
            | .ok _ => .error .invalid
            | .error e => .error e
        match found with
        | .ok text => p.print (text ++ ending)
        | .error e =>
          if isLoud then p.complain s 1 (Quoting.plainName name ++ ": " ++ e.reason)
          else { p with status := 1 }) s

def relativePath (base l : Location) : String :=
  let rec common : Location → Location → Nat
    | a :: as, b :: bs => if a = b then common as bs + 1 else 0
    | _, _ => 0
  let n := common base l
  let parts := List.replicate (base.length - n) ".." ++ (l.drop n).map Text.Octets.ofBytes
  if parts.isEmpty then "." else "/".intercalate parts

/-- Writes where paths end. -/
def realpath : Tool := fun s =>
  let table : OptionTable :=
    { letters := "eLmPqsz"
      names := [("canonicalize-existing", .nothing, "e"), ("canonicalize-missing", .nothing, "m"),
        ("relative-to", .value, "to"), ("relative-base", .value, "base"), ("quiet", .nothing, "q"),
        ("no-symlinks", .nothing, "s"), ("strip", .nothing, "s"), ("zero", .nothing, "z"),
        ("logical", .nothing, "L"), ("physical", .nothing, "P")]
      usage := "[OPTION]... FILE..." }
  s.withOptions table 1 fun o =>
    let presence : Presence := match (o.last? ["e", "m"]).map Prod.fst with
      | some "e" => .all
      | some _ => .nothing
      | none => .allButLast
    let lexical (name : String) : Location :=
      (pathOf name).components.foldl (fun l c =>
        match c with
        | .root => []
        | .current => l
        | .parent => l.dropLast
        | .normal part => l ++ [part]) s.directory
    let place (name : String) : Except FileError Location :=
      if o.has "s" then
        match canonical presence s.files s name with
        | .ok _ => .ok (lexical name)
        | .error e => .error e
      else canonical presence s.files s name
    let base := ((o.value? "base").bind fun name => (place name).toOption)
    let start := ((o.value? "to").bind fun name => (place name).toOption) <|> base
    if o.words.isEmpty then s.misuse 1 "missing operand"
    else
      Progress.through o.words (fun name p =>
        match place name with
        | .ok l =>
          let isNear := base.all fun b => Files.isBelow l b
          let text := match start with
            | some start => if isNear then relativePath start l else pathText l
            | none => pathText l
          p.print (text ++ if o.has "z" then "\x00" else "\n")
        | .error e =>
          if o.has "q" then { p with status := 1 }
          else p.complain s 1 (Quoting.plainName name ++ ": " ++ e.reason)) s

end Tool

end Gutter.Shell
