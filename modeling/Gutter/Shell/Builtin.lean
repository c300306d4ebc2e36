import Gutter.Shell.Condition
import Gutter.Shell.Field
import Gutter.Shell.Grammar
import Gutter.Shell.State
import Gutter.Shell.Tool.Output

/-!
# Commands of the shell itself

The commands that change the shell, and those that it has for speed. None of them runs a script.
-/

namespace Gutter.Shell

def builtinNames : List String :=
  ["[", "alias", "bg", "cd", "chdir", "command", "echo", "false", "fg", "getopts", "hash", "jobs",
    "kill", "printf", "pwd", "read", "test", "true", "type", "ulimit", "umask", "unalias",
    "wait"]

def isBuiltin (name : String) : Bool := name ∈ specialCommands || name ∈ builtinNames

namespace Builtin

abbrev Action := List String → State → State

/-- Writes a text; the command ends well unless it cannot be written. -/
def print (text : String) (s : State) : State :=
  match s.write? 1 (Text.Octets.toBytes text) with
  | .ok s => s.finish 0
  | .error _ => (s.complain (s.caller.getD "" ++ ": I/O error")).finish 1

/-- Reads options. Those in `values` are followed by another text. -/
def readOptions (flags values : List Char) :
    (fuel : Nat) → List String → Except String (List (Char × String) × List String)
  | 0, args => .ok ([], args)
  | _, [] => .ok ([], [])
  | fuel + 1, arg :: args =>
    match arg.toList with
    | ['-', '-'] => .ok ([], args)
    | '-' :: c :: cs =>
      if c ∈ flags then do
        let args := if cs.isEmpty then args else String.ofList ('-' :: cs) :: args
        let (given, rest) ← readOptions flags values fuel args
        return ((c, "") :: given, rest)
      else if c ∈ values then
        match cs, args with
        | [], [] => .error ("No arg for -" ++ c.toString ++ " option")
        | [], value :: args => do
          let (given, rest) ← readOptions flags values fuel args
          return ((c, value) :: given, rest)
        | cs, args => do
          let (given, rest) ← readOptions flags values fuel args
          return ((c, String.ofList cs) :: given, rest)
      else .error ("Illegal option -" ++ c.toString)
    | _ => .ok ([], arg :: args)

def withOptions (flags values : List Char) (f : List (Char × String) → Action) : Action :=
  fun args s =>
    let size := Number.total (args.map String.length) + args.length
    match readOptions flags values (size + 1) args with
    | .ok (given, args) => f given args s
    | .error e => s.fail e

def withNumber (word : String) (f : Nat → State → State) (s : State) : State :=
  match Number.count? word with
  | some n => f n s
  | none => s.fail ("Illegal number: " ++ word)

/-! ## Variables -/

def splitAssignment (word : String) : String × Option String :=
  let name := word.toList.takeWhile (· ≠ '=')
  (String.ofList name,
    if name.length < word.length then some (String.ofList (word.toList.drop (name.length + 1)))
    else none)

def declare (mark : Variable → Variable) (before : String → State → State) : Action :=
  fun words s =>
    words.foldl (fun s word =>
      let (name, value) := splitAssignment word
      if !s.isGoing then s
      else if !isName name then s.fail (name ++ ": bad variable name")
      else
        let s := before name s
        let s := value.elim s fun v => s.assign name v
        if s.isGoing then s.modifyVariable name mark else s) (s.finish 0)

/-- A text in single quotes, in which single quotes stand in double ones. -/
def quote (text : String) : String :=
  let rec go : (fuel : Nat) → List Char → List Char
    | 0, _ => []
    | fuel + 1, cs =>
      let plain := cs.takeWhile (· ≠ '\'')
      let rest := cs.drop plain.length
      let quotes := rest.takeWhile (· = '\'')
      let after := rest.drop quotes.length
      '\'' :: plain ++ '\'' ::
        (if quotes.isEmpty then [] else '"' :: quotes ++ '"' ::
          if after.isEmpty then [] else go fuel after)
  String.ofList (go (text.length + 1) text.toList)

def listVariables (command : String) (isListed : Variable → Bool) (s : State) : State :=
  let shown := (s.bindings.filter fun x => isListed x.2).mergeSort fun a b => !decide (b.1 < a.1)
  print (String.join (shown.map fun x =>
    command ++ x.1 ++ (x.2.value.elim "" fun v => "=" ++ quote v) ++ "\n")) s

def «export» : Action :=
  withOptions ['p'] [] fun given words s =>
    if words.isEmpty || !given.isEmpty then listVariables "export " Variable.isExported s
    else declare (fun v => { v with isExported := true }) (fun _ => id) words s

def readonly : Action :=
  withOptions ['p'] [] fun given words s =>
    if words.isEmpty || !given.isEmpty then listVariables "readonly " Variable.isReadOnly s
    else declare (fun v => { v with isReadOnly := true }) (fun _ => id) words s

def «local» : Action := fun words s =>
  if s.hidden.isEmpty then s.fail "not in a function"
  else
    words.foldl (fun s word =>
      if !s.isGoing then s
      else if word = "-" then s.hideOptions
      else declare id State.hide [word] s) (s.finish 0)

def unset : Action :=
  withOptions ['v', 'f'] [] fun given words s =>
    if given.getLast?.any (·.1 = 'f') then
      { s.finish 0 with definitions := s.definitions.filter fun x => x.1 ∉ words }
    else
      words.foldl (fun s word =>
        let name := (splitAssignment word).1
        if !s.isGoing then s
        else if !isName name then s.fail (name ++ ": bad variable name")
        else s.unset name) (s.finish 0)

/-! ## Options and parameters -/

def optionNames : List (String × Char) :=
  [("errexit", 'e'), ("noglob", 'f'), ("ignoreeof", 'I'), ("interactive", 'i'), ("monitor", 'm'),
    ("noexec", 'n'), ("stdin", 's'), ("xtrace", 'x'), ("verbose", 'v'), ("vi", 'V'), ("emacs", 'E'),
    ("noclobber", 'C'), ("allexport", 'a'), ("notify", 'b'), ("nounset", 'u'), ("privileged", 'p'),
    ("nolog", 'L'), ("debug", 'D')]

def setOption (on : Bool) (c : Char) (s : State) : State :=
  let others := s.options.filter (· ≠ c)
  { s with options := if on then c :: others else others }

def listOptions (asCommands : Bool) (s : State) : State :=
  let row (x : String × Char) : String :=
    let isOn := s.has x.2
    if asCommands then "set " ++ (if isOn then "-o " else "+o ") ++ x.1 ++ "\n"
    else x.1 ++ String.ofList (List.replicate (16 - x.1.length) ' ') ++
      (if isOn then "on\n" else "off\n")
  print ((if asCommands then "" else "Current option settings\n") ++
    String.join (optionNames.map row)) s

/-- Reads the letters of options; `o` takes the name of an option from the words after them. -/
def setLetters (on : Bool) : List Char → List String → State → List String × State
  | [], words, s => (words, s)
  | c :: cs, words, s =>
    if c = 'o' then
      match words with
      | [] => setLetters on cs [] (listOptions (!on) s)
      | name :: words =>
        match optionNames.lookup name with
        | some c => setLetters on cs words (setOption on c s)
        | none => (words, s.fail ("Illegal option -o " ++ name))
    else if optionNames.any (·.2 = c) && c ∉ ['L', 'D'] then
      setLetters on cs words (setOption on c s)
    else (words, s.fail ("Illegal option -" ++ c.toString))

/-- Sets options, and then the parameters if there are words left or they are asked for. -/
def set : (fuel : Nat) → Action
  | 0, _, s => s
  | _, [], s => s
  | fuel + 1, word :: words, s =>
    match word.toList with
    | ['-'] =>
      let s := setOption false 'x' (setOption false 'v' s)
      if words.isEmpty then s else { s with args := words }
    | ['-', '-'] => { s with args := words }
    | c :: cs =>
      if c = '-' || c = '+' then
        let (words, s) := setLetters (c = '-') cs words s
        if s.isGoing then set fuel words s else s
      else { s with args := word :: words }
    | [] => { s with args := word :: words }

def shift : Action := fun words s =>
  withNumber (words.head?.getD "1") (fun n s =>
    if s.args.length < n then s.fail "can't shift that many"
    else { s.finish 0 with args := s.args.drop n }) s

/-! ## Leaving -/

def leaveLoops (flow : Nat → Flow) : Action := fun words s =>
  let word := words.head?.getD "1"
  withNumber word (fun n s =>
    if n = 0 then s.fail ("Illegal number: " ++ word)
    else if s.loops = 0 then s.finish 0
    else { s.finish 0 with flow := flow (min n s.loops) }) s

def leave (flow : Nat → Flow) : Action := fun words s =>
  match words with
  | [] => { s with flow := flow s.status }
  | word :: _ => withNumber word (fun n s => { s.finish n with flow := flow n }) s

/-! ## Signals -/

def signalNames : List String :=
  "EXIT" :: ExitStatus.signalNames.map fun name => String.ofList (name.toList.drop 3)

def signal? (word : String) : Option Nat :=
  match Number.plain? word with
  | some n => if n < 65 then some n else none
  | none => signalNames.findIdx? (· = word.toUpper)

def isFatal (signal : Nat) : Bool := signal ∉ [0, 17, 18, 19, 20, 21, 22, 23, 28]

def killUsage : String :=
  "Usage: kill [-s sigspec | -signum | -sigspec] [pid | job]... or\nkill -l [exitstatus]"

def send (signal : Nat) : List String → State → State
  | [], s => s
  | word :: words, s =>
    withNumber word (fun n s =>
      if n = s.number then send signal words { s with signals := s.signals ++ [signal] }
      else if s.jobs.any (·.1 = n) then send signal words s
      else send signal words ((s.complain "No such process\n").finish 1)) s

/-- Sends a signal, or lists the signals. -/
def kill : Action := fun words s =>
  let start (signal : Nat) (targets : List String) : State :=
    if targets.isEmpty then s.fail killUsage else send signal targets (s.finish 0)
  match words with
  | [] => s.fail killUsage
  | word :: rest =>
    match word.toList with
    | '-' :: cs =>
      match signal? (String.ofList cs) with
      | some n => start n rest
      | none =>
        withOptions ['l'] ['s'] (fun given rest s =>
          if given.any (·.1 = 'l') then
            match rest with
            | [] => print (String.join ((signalNames.set 0 "0").map (· ++ "\n"))) s
            | word :: _ =>
              match (Number.plain? word).bind fun n =>
                  signalNames[if 128 < n then n - 128 else n]? with
              | some name => print (name ++ "\n") s
              | none =>
                s.fail ((if (Number.plain? word).isNone then "Illegal number: "
                  else "invalid signal number or exit status: ") ++ word)
          else
            match given.getLast? with
            | some (_, name) =>
              match signal? name with
              | some n => start n rest
              | none => s.fail ("invalid signal number or name: " ++ name)
            | none => start 15 rest) words s
    | _ => start 15 words

/-- Says what is run on signals. -/
def trap : Action :=
  withOptions [] [] fun _ words s =>
    let set (action : Option String) (words : List String) : State :=
      words.foldl (fun s word =>
        if s.status ≠ 0 then s
        else
          match signal? word with
          | none => (s.write 2 (Text.Octets.toBytes ("trap: " ++ word ++ ": bad trap\n"))).finish 1
          | some n =>
            let others := s.traps.filter (·.1 ≠ n)
            { s with traps := action.elim others fun a => (n, a) :: others }) (s.finish 0)
    match words with
    | [] =>
      let rows := (List.range 65).filterMap fun n => (s.traps.lookup n).map fun action =>
        "trap -- " ++ quote action ++ " " ++ (signalNames[n]?).getD (toString n) ++ "\n"
      print (String.join rows) s
    | [word] => set none [word]
    | word :: rest =>
      if (signal? word).isSome && (Number.plain? word).isSome then set none words
      else set (if word = "-" then none else some word) rest

/-! ## Conditions and numbers -/

def test : Action := fun words s =>
  match Condition.check ⟨s.files, s.directory, s.node?⟩ words with
  | .ok b => s.finish (if b then 0 else 1)
  | .error e => s.fail e

def bracket : Action := fun words s =>
  if words.getLast? = some "]" then test words.dropLast s else s.fail "missing ]"

/-! ## Output -/

/-- Writes its arguments; escapes in them are replaced. -/
def echo : Action := fun words s =>
  if words.head? = some "-n" then print (Tool.joined words.tail true false) s
  else print (Tool.joined words true true) s

/-- Writes its arguments as the first one says. -/
def printf : Action :=
  withOptions [] [] fun _ words s =>
    match words with
    | [] => s.fail "usage: printf format [arg ...]"
    | format :: words =>
      let p := Format.apply format words
      let s := p.complaints.foldl (fun s c => s.complain c) s
      if p.status = 2 then
        { s.write 1 (Text.Octets.toBytes p.text) with status := 2, flow := .failed }
      else
        let s := print p.text s
        s.finish (max s.status p.status)

/-! ## Input -/

/-- The line at the front of some bytes as glyphs, how many bytes it takes, and whether it has an
end. Unless the text is raw, a backslash takes the meaning of what follows away. -/
def readLine (raw : Bool) : (taken : Nat) → (line : List Glyph) → List UInt8 →
    List Glyph × Nat × Bool
  | taken, line, [] => (line.reverse, taken, false)
  | taken, line, b :: bs =>
    let letter (b : UInt8) (splits : Bool) : Glyph := .letter ⟨Char.ofNat b.toNat, !splits⟩ splits
    if b = 0x0A then (line.reverse, taken + 1, true)
    else if b = 0 then readLine raw (taken + 1) line bs
    else if b = 0x5C && !raw then
      match bs with
      | [] => (line.reverse, taken + 1, false)
      | c :: bs =>
        readLine raw (taken + 2) ((if c = 0x0A then .seam false else letter c false) :: line) bs
    else readLine raw (taken + 1) (letter b true :: line) bs

/-- Reads a line of the input into variables. -/
def read : Action :=
  withOptions ['r'] ['p'] fun given names s =>
    if names.isEmpty then s.fail "arg count"
    else
      let (line, taken, isWhole) :=
        readLine (given.any (·.1 = 'r')) 0 [] ((s.readable 0).toOption.getD [])
      let fields := (Field.splitAtMost s.separators names.length {} line).map Letter.text
      let values := fields ++ List.replicate (names.length - fields.length) ""
      (names.zip values).foldl (fun s (word, value) =>
        let name := (splitAssignment word).1
        if !s.isGoing then s
        else if isName name then s.assign name value
        else s.fail (name ++ ": bad variable name"))
        ((s.consume 0 taken).finish (if isWhole then 0 else 1))

/-! ## Directories -/

def pathOf (l : Location) : String :=
  if l.isEmpty then "/" else String.join (l.map fun name => "/" ++ Text.Octets.ofBytes name)

/-- The path that a path names, seen from a directory with a path: dots are followed by what is
written only. Two slashes at the start stay. -/
def lexicalPath (directory path : String) : String :=
  let isWhole := path.startsWith "/"
  let hasTwo := (path.startsWith "//" && !path.startsWith "///") ||
    (!isWhole && directory.startsWith "//")
  let names (p : String) : List String := (p.splitOn "/").filter fun n => n ≠ "" && n ≠ "."
  let start := if isWhole then [] else names directory
  let all := (names path).foldl (fun done name =>
    if name = ".." then done.dropLast else done ++ [name]) start
  (if hasTwo then "//" else "/") ++ "/".intercalate all

/-- Goes to a directory by a path; `none` if there is no such directory. -/
def goTo? (isPhysical : Bool) (path : String) (s : State) : Option State :=
  let path := if isPhysical then path else lexicalPath s.path path
  match s.files.lookup s.directory ⟨Text.Octets.toBytes path⟩ with
  | .ok (l, .directory) =>
    let path := if isPhysical then pathOf l else path
    let set (name value : String) (s : State) : State :=
      let s := s.assign name value
      if s.isGoing then s.modifyVariable name fun v => { v with isExported := true } else s
    some { set "PWD" path (set "OLDPWD" s.path s) with directory := l, path }
  | _ => none

/-- Goes to another directory: that of the user without a word, the last one with a dash. A path
that does not start with a slash or a dot is looked for in some directories. -/
def cd : Action :=
  withOptions ['L', 'P'] [] fun given words s =>
    let isPhysical := given.getLast?.any (·.1 = 'P')
    let word := words.head?
    let target := match word with
      | none => (s.textOf? "HOME").getD ""
      | some "-" => (s.textOf? "OLDPWD").getD ""
      | some word => word
    let isFixed := target.startsWith "/" || target ∈ [".", ".."] || target.startsWith "./" ||
      target.startsWith "../"
    let path := if target.isEmpty then "." else target
    let around := (s.textOf? "CDPATH").elim [] fun text => text.splitOn ":"
    let candidates := if isFixed then [] else around.map fun d =>
      (if d.isEmpty then path else if d.endsWith "/" then d ++ path else d ++ "/" ++ path, !d.isEmpty)
    let isDirectory (x : String × Bool) : Bool :=
      match s.files.lookup s.directory ⟨Text.Octets.toBytes x.1⟩ with
      | .ok (_, .directory) => true
      | _ => false
    let (path, isShown) := (candidates.find? isDirectory).getD (path, false)
    match goTo? isPhysical path s with
    | some s =>
      if !s.isGoing then s
      else if isShown || word = some "-" then print (s.path ++ "\n") s
      else s.finish 0
    | none => s.fail ("can't cd to " ++ if isFixed then target else path)

def pwd : Action :=
  withOptions ['L', 'P'] [] fun given _ s =>
    let isPhysical := given.getLast?.any (·.1 = 'P')
    print ((if isPhysical then pathOf s.directory else s.path) ++ "\n") s

/-! ## Options of scripts -/

/-- Takes the next option from the parameters of a script. -/
def nextOption : Action := fun words s =>
  match words with
  | [] | [_] => s.fail "Usage: getopts optstring var [arg]"
  | letters :: name :: given =>
    let args := if given.isEmpty then s.args else given
    let (index, place) := s.optionPlace
    let index := max index 1
    let done (c : Char) (value : Option String) (index place : Nat) (status : Nat) (s : State) :
        State :=
      let s := value.elim { s with bindings := s.bindings.filter (·.1 ≠ "OPTARG") }
        (s.assign "OPTARG" ·)
      let s := (s.assign "OPTIND" (toString index)).assign name c.toString
      { s.finish status with optionPlace := (index, place) }
    let current := ((args[index - 1]?).getD "").toList
    let place := if place = 0 then 1 else place
    match current.head?, current.drop place with
    | some '-', c :: rest =>
      if c = '-' && place = 1 && rest.isEmpty then done '?' none (index + 1) 0 1 s
      else
        let known := letters.toList
        let isSilent := known.head? = some ':'
        let (nextIndex, nextPlace) := if rest.isEmpty then (index + 1, 0) else (index, place + 1)
        let complain (text : String) (s : State) : State :=
          s.write 2 (Text.Octets.toBytes (text ++ "\n"))
        match known.dropWhile (· ≠ c) with
        | _ :: ':' :: _ =>
          if !rest.isEmpty then done c (some (String.ofList rest)) (index + 1) 0 0 s
          else
            match args[index]? with
            | some value => done c (some value) (index + 2) 0 0 s
            | none =>
              if isSilent then done ':' (some c.toString) (index + 1) 0 0 s
              else done '?' none (index + 1) 0 0
                (complain ("No arg for -" ++ c.toString ++ " option") s)
        | _ :: _ => done c (some "") nextIndex nextPlace 0 s
        | [] =>
          if isSilent then done '?' (some c.toString) nextIndex nextPlace 0 s
          else done '?' none nextIndex nextPlace 0
            (complain ("Illegal option -" ++ c.toString) s)
    | _, _ => done '?' none index 0 1 s

/-! ## All commands -/

def wait : Action :=
  withOptions [] [] fun _ words s =>
    words.foldl (fun s word =>
      if !s.isGoing then s
      else
        match Number.count? word with
        | some n => s.finish ((s.jobs.lookup n).getD 127)
        | none =>
          s.fail ((if word.startsWith "%" then "No such job: " else "Illegal number: ") ++ word))
      (s.finish 0)

/-- The rights that a list of changes makes of some, if it is such a list. -/
def allowedBy : (fuel : Nat) → (whole allowed : Nat) → List Char → Option Nat
  | 0, _, _, _ => none
  | _, _, allowed, [] => some allowed
  | fuel + 1, whole, allowed, cs =>
    let people := cs.takeWhile (· ∈ ['u', 'g', 'o', 'a'])
    let rec change : (fuel : Nat) → Nat → List Char → Option (Nat × List Char)
      | 0, _, _ => none
      | _, allowed, [] => some (allowed, [])
      | fuel + 1, allowed, operator :: cs =>
        if operator ∉ ['=', '+', '-'] then
          if operator = ',' then some (allowed, operator :: cs) else none
        else
          let letters := cs.takeWhile (· ∈ ['r', 'w', 'x', 'u', 'g', 'o', 'X', 's'])
          let value (c : Char) : Nat := match c with
            | 'r' => 4
            | 'w' => 2
            | 'x' => 1
            | 'u' => whole / 64
            | 'g' => whole / 8
            | 'o' => whole
            | 'X' => if whole &&& 0o111 ≠ 0 then 1 else 0
            | _ => 0
          let bits := letters.foldl (fun n c => n ||| value c) 0 % 8
          let places := if people.isEmpty || 'a' ∈ people then [64, 8, 1]
            else [('u', 64), ('g', 8), ('o', 1)].filterMap fun x =>
              if x.1 ∈ people then some x.2 else none
          let new := (places.map (bits * ·)).foldl (· ||| ·) 0
          let field := (places.map (7 * ·)).foldl (· ||| ·) 0
          let allowed := match operator with
            | '+' => allowed ||| new
            | '-' => allowed &&& (0o777 ^^^ new)
            | _ => new ||| (allowed &&& (0o777 ^^^ field))
          change fuel allowed (cs.drop letters.length)
    let rest := cs.drop people.length
    if rest.head? = some ',' then none
    else
      (change (rest.length + 1) allowed rest).bind fun (allowed, rest) =>
        allowedBy fuel whole allowed (rest.drop 1)

/-- Shows or sets what new files may not be used for. -/
def umask : Action :=
  withOptions ['S'] [] fun given words s =>
    let digit (place : Nat) : Nat := s.mask / Nat.pow 8 place % 8
    match words with
    | [] =>
      let allowed (place : Nat) : String := String.ofList (([4, 2, 1].zip ['r', 'w', 'x']).filterMap
        fun x => if digit place / x.1 % 2 = 0 then some x.2 else none)
      let text :=
        if given.isEmpty then String.ofList ([3, 2, 1, 0].map fun i => Nat.digitChar (digit i))
        else "u=" ++ allowed 2 ++ ",g=" ++ allowed 1 ++ ",o=" ++ allowed 0
      print (text ++ "\n") s
    | word :: _ =>
      let cs := word.toList
      if cs.head?.any Char.isDigit then
        if cs.all fun c => '0' ≤ c && c ≤ '7' then
          { s.finish 0 with mask := Number.ofDigits 8 cs % 512 }
        else s.fail ("Illegal number: " ++ word)
      else
        let allowed := 0o777 ^^^ s.mask % 0o1000
        match allowedBy (cs.length + 2) allowed allowed cs with
        | some allowed => { s.finish 0 with mask := 0o777 ^^^ allowed % 0o1000 }
        | none => s.fail ("Illegal mode: " ++ word)

/-! ## Limits -/

/-- The limits on what programs may use: their letters, their names and their usual values. -/
def limitTable : List (Char × String × String) :=
  [('t', "time(seconds)", "unlimited"), ('f', "file(blocks)", "unlimited"),
    ('d', "data(kbytes)", "unlimited"), ('s', "stack(kbytes)", "8192"),
    ('c', "coredump(blocks)", "0"), ('m', "memory(kbytes)", "unlimited"),
    ('l', "locked memory(kbytes)", "8192"), ('p', "process", "unlimited"),
    ('n', "nofiles", "1048576"), ('v', "vmemory(kbytes)", "unlimited"),
    ('w', "locks", "unlimited"), ('r', "rtprio", "0")]

/-- Shows or sets a limit. -/
def ulimit : Action :=
  withOptions ('H' :: 'S' :: 'a' :: limitTable.map Prod.fst) [] fun given words s =>
    let value (c : Char) (usual : String) : String := (s.limits.lookup c).getD usual
    let letter := ((given.filter fun x => x.1 ∉ ['H', 'S']).getLast?.map Prod.fst).getD 'f'
    match words with
    | [] =>
      if given.any (·.1 = 'a') then
        let row (x : Char × String × String) : String :=
          x.2.1 ++ String.ofList (List.replicate (20 - x.2.1.length) ' ') ++
            (if x.2.1.length < 20 then " " else "") ++ value x.1 x.2.2 ++ "\n"
        print (String.join (limitTable.map row)) s
      else
        let usual := (limitTable.lookup letter).elim "" Prod.snd
        print (value letter usual ++ "\n") s
    | word :: more =>
      if given.any (·.1 = 'a') || !more.isEmpty then s.fail "too many arguments"
      else if word ≠ "unlimited" && (word.isEmpty || !word.toList.all Char.isDigit) then
        s.fail "bad number"
      else { s.finish 0 with limits := (letter, word) :: s.limits.filter (·.1 ≠ letter) }

/-! ## Aliases -/

def aliasText (x : String × String) : String := x.1 ++ "=" ++ quote x.2

/-- Defines aliases, or lists them. -/
def «alias» : Action := fun words s =>
  let sorted := State.shelved 39 s.aliases
  if words.isEmpty then print (String.join (sorted.map fun x => aliasText x ++ "\n")) s
  else
    words.foldl (fun s word =>
      let cs := word.toList
      let name := String.ofList (cs.take 1 ++ cs.tail.takeWhile (· ≠ '='))
      if name.length < word.length then
        let value := String.ofList (cs.drop (name.length + 1))
        let isThere := s.aliases.any (·.1 = name)
        { s with aliases := if isThere then
            s.aliases.map fun x => if x.1 = name then (name, value) else x
          else s.aliases ++ [(name, value)] }
      else
        match s.aliases.lookup word with
        | some value =>
          let status := s.status
          let s := print (aliasText (word, value) ++ "\n") s
          s.finish (max status s.status)
        | none => (s.write 2 (Text.Octets.toBytes ("alias: " ++ word ++ " not found\n"))).finish 1)
      (s.finish 0)

def unalias : Action :=
  withOptions ['a'] [] fun given words s =>
    if !given.isEmpty then { s.finish 0 with aliases := [] }
    else
      words.foldl (fun s word =>
        if s.aliases.any (·.1 = word) then
          { s with aliases := s.aliases.filter (·.1 ≠ word) }
        else
          (s.write 2 (Text.Octets.toBytes ("unalias: " ++ word ++ " not found\n"))).finish 1)
        (s.finish 0)

/-! ## Jobs -/

/-- Lists the parts that ran in the background, which have ended already. -/
def jobs : Action :=
  withOptions ['l', 'p'] [] fun given _ s =>
    let rows := s.jobs.reverse.zipIdx.map fun ((number, status), i) =>
      if given.any (·.1 = 'p') then toString number ++ "\n"
      else
        let mark := if i + 1 = s.jobs.length then "+ " else if i + 2 = s.jobs.length then "- "
          else "  "
        let id := if given.any (·.1 = 'l') then toString number ++ " " else ""
        let text := "[" ++ toString (i + 1) ++ "] " ++ mark ++ id ++
          if status = 0 then "Done" else "Done(" ++ toString status ++ ")"
        text ++ String.ofList (List.replicate (33 - text.length) ' ') ++ "\n"
    print (String.join rows) s

/-- Would let a part go on that has stopped; there are none. -/
def resume : Action :=
  withOptions [] [] fun _ words s =>
    match words, s.jobs with
    | [], [] => s.fail "No current job"
    | word :: _, _ =>
      let number := if word.startsWith "%" then Number.plain? (word.drop 1).toString else none
      let isCurrent := word ∈ ["%", "%%", "%+"]
      if (isCurrent && !s.jobs.isEmpty) || number.any fun n => 0 < n && n ≤ s.jobs.length then
        s.fail "job (null) not created under job control"
      else if isCurrent then s.fail "No current job"
      else s.fail ("No such job: " ++ word)
    | [], _ :: _ => s.fail "job (null) not created under job control"

/-- The command of the shell with a name, unless it has to do with scripts and programs. -/
def find? (name : String) : Option Action :=
  match name with
  | ":" | "true" => some fun _ s => s.finish 0
  | "alias" => some «alias»
  | "unalias" => some unalias
  | "jobs" => some jobs
  | "fg" | "bg" => some resume
  | "ulimit" => some ulimit
  | "false" => some fun _ s => s.finish 1
  | "export" => some «export»
  | "readonly" => some readonly
  | "local" => some «local»
  | "unset" => some unset
  | "set" => some fun words s =>
    let size := Number.total (words.map String.length) + words.length
    if words.isEmpty then listVariables "" (fun v => v.value.isSome) s
    else
      let s := set (size + 1) words s
      if s.isGoing then s.finish 0 else s
  | "shift" => some shift
  | "break" => some (leaveLoops .breaking)
  | "continue" => some (leaveLoops .continuing)
  | "return" => some (leave fun _ => .returning)
  | "exit" => some (leave fun n => .ended (.code n))
  | "kill" => some kill
  | "trap" => some trap
  | "wait" => some wait
  | "test" => some test
  | "[" => some bracket
  | "echo" => some echo
  | "printf" => some printf
  | "read" => some read
  | "cd" | "chdir" => some cd
  | "pwd" => some pwd
  | "getopts" => some nextOption
  | "umask" => some umask
  | "times" => some fun _ s => print "0m0.000000s 0m0.000000s\n0m0.000000s 0m0.000000s\n" s
  | _ => none

end Builtin

end Gutter.Shell
