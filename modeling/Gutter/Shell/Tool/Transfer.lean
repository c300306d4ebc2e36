import Gutter.Shell.Tool.Store

/-!
# Copying and moving files
-/

namespace Gutter.Shell.Tool

/-- What happens to something that would be replaced. -/
inductive Replacing where
  | always
  | never
  | older
  | asked
  deriving DecidableEq

/-- What happens to the old contents of something that is replaced. -/
inductive Backup where
  | none
  | simple
  | numbered
  | existing
  deriving DecidableEq

/-- How files are copied or moved. -/
structure TransferPlan where
  isDeep : Bool := false
  keepsLinks : Bool := false
  keepsRights : Bool := false
  replacing : Replacing := .always
  backup : Backup := .none
  suffix : String := "~"
  isLoud : Bool := false
  removesFirst : Bool := false
  linking : Option Bool := none
  withParents : Bool := false

structure TransferState where
  progress : Progress
  made : List Location := []

namespace TransferState

def complain (s : Supply) (text : String) (t : TransferState) : TransferState :=
  { t with progress := t.progress.complain s 1 text }

def say (isLoud : Bool) (text : String) (t : TransferState) : TransferState :=
  if isLoud then { t with progress := t.progress.print text } else t

def files (t : TransferState) : Files := t.progress.files

def change (f : Files → Files) (t : TransferState) : TransferState :=
  { t with progress := { t.progress with files := f t.progress.files } }

end TransferState

namespace TransferPlan

def backupName (plan : TransferPlan) (s : Supply) (files : Files) (target : String) : String :=
  let numbered (n : Nat) : String := target ++ ".~" ++ toString n ++ "~"
  let isThere (name : String) : Bool := (files.lookupLink s.directory (pathOf name)).isOk
  let last := ((List.range 100).filter fun n => isThere (numbered (n + 1))).getLast?
  match plan.backup, last with
  | .numbered, last | .existing, last@(some _) => numbered (last.elim 1 (· + 2))
  | _, _ => target ++ plan.suffix

def keepOld (plan : TransferPlan) (s : Supply) (target : String) (l : Location)
    (t : TransferState) : String × TransferState :=
  if plan.backup = .none then ("", t)
  else
    let name := plan.backupName s t.files target
    let place := l.dropLast ++ [Text.Octets.toBytes (lastPart name)]
    (" (backup: " ++ Quoting.name name ++ ")", t.change (·.move l place))

/-- Whether something may be replaced, after a question if one is asked. -/
def mayReplace (plan : TransferPlan) (s : Supply) (target : String) (old new : Location)
    (t : TransferState) : Bool × TransferState :=
  match plan.replacing with
  | .always => (true, t)
  | .never => (false, t)
  | .older =>
    let time (l : Location) : Int := (t.files.times.lookup l).getD Date.now
    (time new < time old, t)
  | .asked =>
    let (isWanted, p) := t.progress.ask s ("overwrite " ++ Quoting.name target ++ "? ")
    (isWanted, { t with progress := p })

/-- Gives the rights and the time of something to its copy. -/
def copyRights (plan : TransferPlan) (isNew : Bool) (mask : Nat) (old new : Location)
    (files : Files) : Files :=
  let mode := files.mode old
  if plan.keepsRights then
    let files := if files.mode new = mode then files else files.setMode new mode
    match files.times.lookup old with
    | some time => files.setTime new time
    | none => files
  else
    let wanted := mode &&& (0o777 ^^^ mask % 0o1000)
    if isNew && files.mode new ≠ wanted then files.setMode new wanted else files

/-- Copies what a path names to another path. -/
def copy (plan : TransferPlan) (s : Supply) :
    (fuel : Nat) → (isTop : Bool) → (source target : String) → TransferState → TransferState
  | 0, _, _, _, t => t
  | fuel + 1, isTop, source, target, t =>
    let look (name : String) : Except FileError (Location × Node) :=
      t.files.lookupLink s.directory (pathOf name)
    let found := if plan.keepsLinks then look source
      else t.files.lookup s.directory (pathOf source)
    let there := t.files.lookup s.directory (pathOf target)
    let arrow := Quoting.name source ++ " -> " ++ Quoting.name target
    match found with
    | .error e => t.complain s ("cannot stat " ++ Quoting.name source ++ ": " ++ e.reason)
    | .ok (old, .directory) =>
      if !plan.isDeep then
        t.complain s ("-r not specified; omitting directory " ++ Quoting.name source)
      else
        let names := t.files.children old
        let prepared : Except String (Location × TransferState) :=
          match there with
          | .ok (l, .directory) => .ok (l, t)
          | .ok _ =>
            .error ("cannot overwrite non-directory " ++ Quoting.name target ++ " with directory " ++
              Quoting.name source)
          | .error _ =>
            match newPlace t.files s target with
            | .error e =>
              .error ("cannot create directory " ++ Quoting.name target ++ ": " ++ e.reason)
            | .ok l =>
              let t := t.change fun files =>
                plan.copyRights true s.mask old l (files.makeDirectory l)
              .ok (l, t.say plan.isLoud (arrow ++ "\n"))
        match prepared with
        | .error text => t.complain s text
        | .ok (new, t) =>
          let isInside := Files.isBelow new old
          if isInside && new = old then
            t.complain s (Quoting.name source ++ " and " ++ Quoting.name target ++
              " are the same file")
          else
            let t := { t with made := new :: t.made }
            let t := names.foldl (fun t name =>
              if isInside && Files.isBelow new (old ++ [name]) then t
              else
                let part := Text.Octets.ofBytes name
                copy plan s fuel false (inside source part) (inside target part) t) t
            if isInside then
              t.complain s ("cannot copy a directory, " ++ Quoting.name source ++
                ", into itself, " ++ Quoting.name target)
            else t
    | .ok (old, node) =>
      match there with
      | .ok (_, .directory) =>
        t.complain s ("cannot overwrite directory " ++ Quoting.name target ++
          " with non-directory")
      | there =>
        let present := match look target with
          | .ok (l, _) => some l
          | .error _ => none
        let isSame := there.toOption.any fun x => x.1 = old
        if isSame && !(plan.linking = some false) then
          t.complain s (Quoting.name source ++ " and " ++ Quoting.name target ++
            " are the same file")
        else if isTop && present.any t.made.contains then
          t.complain s ("will not overwrite just-created " ++ Quoting.name target ++ " with " ++
            Quoting.name source)
        else
          let (isWanted, t) := match there with
            | .ok (new, _) => plan.mayReplace s target old new t
            | .error _ => (true, t)
          if !isWanted then t
          else
            let (note, t) := match present with
              | some l => plan.keepOld s target l t
              | none => ("", t)
            let t := match present.filter fun l => plan.removesFirst && (t.files.node? l).isSome with
              | some l =>
                (t.change (·.erase l)).say plan.isLoud ("removed " ++ Quoting.name target ++ "\n")
              | none => t
            let loud := arrow ++ note ++ "\n"
            let refuse (e : FileError) : TransferState :=
              t.complain s ("cannot create regular file " ++ Quoting.name target ++ ": " ++ e.reason)
            let put (what : String) (node : Node) : TransferState :=
              match newPlace t.files s target with
              | .ok l =>
                { (t.say plan.isLoud loud).change (·.put l node) with made := l :: t.made }
              | .error e =>
                t.complain s ("cannot create " ++ what ++ " " ++ Quoting.name target ++
                  (if what = "hard link" then " to " ++ Quoting.name source else "") ++ ": " ++
                  e.reason)
            match plan.linking, node with
            | some true, _ => put "symbolic link" (.link (pathOf source))
            | some false, node => put "hard link" node
            | none, .link path =>
              let t := match present with
                | some l => t.change (·.erase l)
                | none => t
              match newPlace t.files s target with
              | .ok l =>
                { (t.say plan.isLoud loud).change (·.put l (.link path)) with made := l :: t.made }
              | .error e =>
                t.complain s ("cannot create symbolic link " ++ Quoting.name target ++ ": " ++
                  e.reason)
            | none, node =>
              let contents : Except FileError (List UInt8) := match node with
                | .file contents => .ok contents
                | _ => (s.source source).contents
              match contents with
              | .error e =>
                t.complain s ("error reading " ++ Quoting.name source ++ ": " ++ e.reason)
              | .ok contents =>
                let isNew := !(t.files.lookup s.directory (pathOf target)).isOk
                match s.store target false contents t.progress with
                | .error .isDirectory =>
                  if target.endsWith "/" then refuse .notDirectory else refuse .isDirectory
                | .error e => refuse e
                | .ok progress =>
                  let t := { t with progress }
                  let t := match t.files.locate s.directory (pathOf target) with
                    | .ok l =>
                      { t.change (plan.copyRights isNew s.mask old l) with made := l :: t.made }
                    | .error _ => t
                  t.say plan.isLoud loud

/-- Lets what a path names have another path. -/
def move (plan : TransferPlan) (s : Supply) (source target : String) (t : TransferState) :
    TransferState :=
  match t.files.lookupLink s.directory (pathOf source) with
  | .error e => t.complain s ("cannot stat " ++ Quoting.name source ++ ": " ++ e.reason)
  | .ok (old, node) =>
    let isDirectory : Bool := node = .directory
    let refuse (e : String) : TransferState :=
      t.complain s ("cannot move " ++ Quoting.name source ++ " to " ++ Quoting.name target ++ ": " ++
        e)
    let finish (note : String) (new : Location) (t : TransferState) : TransferState :=
      { (t.change (·.move old new)).say plan.isLoud
          ("renamed " ++ Quoting.name source ++ " -> " ++ Quoting.name target ++ note ++ "\n") with
        made := new :: t.made }
    let place := match t.files.lookupLink s.directory (pathOf target) with
      | .ok (l, _) => some l
      | .error _ => (t.files.locateAs false s.directory (pathOf target)).toOption
    if lastPart source = "." || lastPart source = ".." then refuse "Device or resource busy"
    else if place = some old then
      t.complain s (Quoting.name source ++ " and " ++ Quoting.name target ++ " are the same file")
    else if isDirectory && place.any fun l => Files.isBelow l old then
      t.complain s ("cannot move " ++ Quoting.name source ++ " to a subdirectory of itself, " ++
        Quoting.name target)
    else
      match t.files.lookupLink s.directory (pathOf target) with
      | .ok (new, there) =>
        if t.made.contains new then
          t.complain s ("will not overwrite just-created " ++ Quoting.name target ++ " with " ++
            Quoting.name source)
        else if isDirectory && there ≠ .directory then
          t.complain s ("cannot overwrite non-directory " ++ Quoting.name target ++
            " with directory " ++ Quoting.name source)
        else if !isDirectory && there = .directory then
          t.complain s ("cannot overwrite directory " ++ Quoting.name target ++
            " with non-directory")
        else
          let (isWanted, t) := plan.mayReplace s target old new t
          if !isWanted then
            if plan.replacing = .never then t.complain s ("not replacing " ++ Quoting.name target)
            else t
          else if isDirectory && plan.backup = .none && !(t.files.children new).isEmpty then
            t.complain s ("cannot overwrite " ++ Quoting.name target ++ ": Directory not empty")
          else
            let (note, t) := plan.keepOld s target new t
            finish note new t
      | .error e =>
        match e, place with
        | .notFound, some l =>
          if target.endsWith "/" && !isDirectory then refuse "Not a directory"
          else if !t.files.isDirectory l.dropLast then refuse "No such file or directory"
          else finish "" l t
        | e, _ => refuse e.reason

def makeParents (plan : TransferPlan) (s : Supply) (directory source : String)
    (t : TransferState) : TransferState :=
  ((pathStarts (withoutSlashes source)).dropLast).foldl (fun t start =>
    match newPlace t.files s (inside directory start) with
    | .ok l =>
      (t.change (·.makeDirectory l)).say plan.isLoud
        (start ++ " -> " ++ inside directory start ++ "\n")
    | .error _ => t) t

/-- The way of keeping old contents that some options ask for. -/
def backupOf (o : Options) (s : Supply) : Except Refusal Backup :=
  if !o.has "b" && !o.has "backup" && !o.has "S" then .ok .none
  else
    let word := match o.value? "backup" with
      | some "" | none => (s.environment.lookup "VERSION_CONTROL").getD "existing"
      | some word => word
    let groups := [["none", "off"], ["simple", "never"], ["existing", "nil"], ["numbered", "t"]]
    let kind (name : String) : Backup := match name with
      | "none" => .none
      | "simple" => .simple
      | "numbered" => .numbered
      | _ => .existing
    match Options.choice "backup type" groups word with
    | .ok name => .ok (kind name)
    | .error text => .error { text, hasHint := true }

/-- The way of replacing that some options ask for. -/
def replacingOf (o : Options) : Except Refusal Replacing := do
  let update ← match o.value? "update" with
    | none => pure none
    | some "" => pure (some "older")
    | some word =>
      match Options.choice "--update" [["all"], ["none"], ["older"]] word with
      | .ok name => pure (some name)
      | .error text => throw { text, hasHint := true }
  let byUpdate : Replacing := match update with
    | some "none" => .never
    | some "older" => .older
    | _ => if o.has "u" then .older else .always
  return match (o.last? ["f", "i", "n"]).map Prod.fst with
    | some "i" => if byUpdate = .always then .asked else byUpdate
    | some "n" => .never
    | _ => byUpdate

end TransferPlan

/-- Copies or moves the sources among some words to their target. -/
def transferAll (o : Options) (plan : TransferPlan)
    (one : (source target : String) → TransferState → TransferState) (s : Supply) : Ending :=
  let isThere (name : String) : Except FileError Bool :=
    (s.files.lookup s.directory (pathOf name)).map fun x => x.2 = .directory
  let finish (t : TransferState) : Ending := t.progress.ending
  let start : TransferState := { progress := Progress.start s }
  let into (directory : String) (sources : List String) : Ending :=
    finish (sources.foldl (fun t source =>
      let name := lastPart source
      if plan.withParents then
        one source (inside directory (withoutSlashes source))
          (plan.makeParents s directory source t)
      else if name = ".." then one source directory t
      else one source (inside directory name) t) start)
  let sources := if o.has "strip" then o.words.map withoutSlashes else o.words
  match sources, o.value? "t" with
  | [], _ => s.misuse 1 "missing file operand"
  | sources, some directory =>
    if o.has "T" then
      s.misuse 1 "cannot combine --target-directory (-t) and --no-target-directory (-T)"
    else
      match isThere directory with
      | .ok true => into directory sources
      | .ok false =>
        s.fail 1 ("target directory " ++ Quoting.name directory ++ ": Not a directory")
      | .error e => s.fail 1 ("target directory " ++ Quoting.name directory ++ ": " ++ e.reason)
  | [source], none => s.misuse 1 ("missing destination file operand after " ++ Quoting.name source)
  | [source, target], none =>
    let isInto := !o.has "T" && (isThere target).toOption = some true
    if plan.withParents && !isInto then
      s.misuse 1 "with --parents, the destination must be a directory"
    else if isInto then into target [source]
    else finish (one source target start)
  | sources, none =>
    let directory := sources.getLast?.getD ""
    if o.has "T" then s.misuse 1 ("extra operand " ++ Quoting.name (sources[2]?.getD ""))
    else
      match isThere directory with
      | .ok true => into directory sources.dropLast
      | .ok false => s.fail 1 ("target " ++ Quoting.name directory ++ ": Not a directory")
      | .error e => s.fail 1 ("target " ++ Quoting.name directory ++ ": " ++ e.reason)

/-- Copies files, and directories if it is asked for. -/
def cp : Tool := fun s =>
  let table : OptionTable :=
    { letters := "abdfHilLnprst:uvxPRS:TZ"
      names := [("archive", .nothing, "a"), ("attributes-only", .nothing, "attributes"),
        ("backup", .perhaps, "backup"), ("copy-contents", .nothing, "contents"),
        ("debug", .nothing, "debug"), ("dereference", .nothing, "L"), ("force", .nothing, "f"),
        ("interactive", .nothing, "i"), ("link", .nothing, "l"), ("no-clobber", .nothing, "n"),
        ("no-dereference", .nothing, "P"), ("no-preserve", .value, "nopreserve"),
        ("no-target-directory", .nothing, "T"), ("one-file-system", .nothing, "x"),
        ("parents", .nothing, "parents"), ("path", .nothing, "parents"),
        ("preserve", .perhaps, "preserve"), ("recursive", .nothing, "R"),
        ("remove-destination", .nothing, "remove"), ("sparse", .value, "sparse"),
        ("reflink", .perhaps, "reflink"), ("strip-trailing-slashes", .nothing, "strip"),
        ("suffix", .value, "S"), ("symbolic-link", .nothing, "s"),
        ("target-directory", .value, "t"), ("update", .perhaps, "update"),
        ("verbose", .nothing, "v"), ("context", .perhaps, "Z")]
      usage := "[OPTION]... [-T] SOURCE DEST" }
  s.withOptions table 1 fun o =>
    let isDeep := ["r", "R", "a"].any o.has
    let links := (o.last? ["d", "P", "a", "L", "H"]).map Prod.fst
    let plan : Except Refusal TransferPlan := do
      return {
        isDeep
        keepsLinks := match links with
          | some "L" => false
          | some "H" | none => isDeep && !o.has "l"
          | some _ => true
        keepsRights := ["p", "a", "preserve"].any o.has
        replacing := ← TransferPlan.replacingOf o
        backup := ← TransferPlan.backupOf o s
        suffix := (o.value? "S").getD "~"
        isLoud := o.has "v" || o.has "debug"
        removesFirst := o.has "remove"
        linking := if o.has "s" then some true else if o.has "l" then some false else none
        withParents := o.has "parents" }
    match plan with
    | .error r => s.refuse 1 r
    | .ok plan => transferAll o plan (plan.copy s depthLimit true) s

/-- Moves files and directories, or gives them other names. -/
def mv : Tool := fun s =>
  let table : OptionTable :=
    { letters := "bfint:uvS:TZ"
      names := [("backup", .perhaps, "backup"), ("context", .nothing, "Z"),
        ("debug", .nothing, "debug"), ("force", .nothing, "f"), ("interactive", .nothing, "i"),
        ("no-clobber", .nothing, "n"), ("no-copy", .nothing, "nocopy"),
        ("no-target-directory", .nothing, "T"), ("strip-trailing-slashes", .nothing, "strip"),
        ("suffix", .value, "S"), ("target-directory", .value, "t"),
        ("update", .perhaps, "update"), ("verbose", .nothing, "v")]
      usage := "[OPTION]... [-T] SOURCE DEST" }
  s.withOptions table 1 fun o =>
    let plan : Except Refusal TransferPlan := do
      return {
        replacing := ← TransferPlan.replacingOf o
        backup := ← TransferPlan.backupOf o s
        suffix := (o.value? "S").getD "~"
        isLoud := o.has "v" || o.has "debug" }
    match plan with
    | .error r => s.refuse 1 r
    | .ok plan => transferAll o plan (plan.move s) s

end Gutter.Shell.Tool
