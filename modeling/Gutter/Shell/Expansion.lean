import Gutter.Shell.Expression
import Gutter.Shell.Field
import Gutter.Shell.State
import Gutter.Shell.Token

/-!
# Expansion

What is put in place of the parameters, scripts and expressions in a word, and the fields and file
names that come of it. Scripts are run by what is given as `capture`: it runs a script in a shell of
its own and gives its output.
-/

namespace Gutter.Shell

/-! ## File names -/

/-- The parts of a field between slashes, each with the slashes before it. -/
def pathParts : Field → List (List Char × Field)
  | [] => [([], [])]
  | l :: ls =>
    match pathParts ls with
    | [] => []
    | (slashes, part) :: parts =>
      if l.char = '/' then
        if part.isEmpty then ('/' :: slashes, part) :: parts
        else ([], []) :: ('/' :: slashes, part) :: parts
      else if slashes.isEmpty then ([], l :: part) :: parts
      else ([], [l]) :: (slashes, part) :: parts

/-- The paths that go on from a path by one part of a pattern. -/
def extendPath (files : Files) (directory : Location) (path : String)
    (part : List Char × Field) : List String :=
  let start := path ++ String.ofList part.1
  let pattern := Pattern.ofLetters 0 part.2
  if !pattern.isOpen then [start ++ Letter.text part.2]
  else
    let here : Path := ⟨Text.Octets.toBytes (if start.isEmpty then "." else start)⟩
    match files.lookup directory here with
    | .ok (l, .directory) =>
      let names := (files.children l).map Text.Octets.ofBytes
      let names := if pattern.head? = some (.char '.') then "." :: ".." :: names
        else names.filter fun name => name.toList.head? ≠ some '.'
      (names.filter pattern.accepts).map (start ++ ·)
    | _ => []

/-- The texts that a field stands for: the paths of files, if it is a pattern that matches some, or
else its own text. -/
def expandPath (files : Files) (directory : Location) (field : Field) : List String :=
  if !(Pattern.ofLetters 0 field).isOpen then [Letter.text field]
  else
    let paths := (pathParts field).foldl
      (fun paths part => paths.flatMap fun path => extendPath files directory path part) [""]
    let exist := paths.filter fun path =>
      (files.lookup directory ⟨Text.Octets.toBytes path⟩).isOk
    if exist.isEmpty then [Letter.text field] else exist

/-! ## Homes -/

def homeOf? (name : String) (s : State) : Option String :=
  if name.isEmpty then s.textOf? "HOME"
  else
    [("root", "/root"), ("daemon", "/usr/sbin"), ("bin", "/bin"), ("sys", "/dev"),
      ("nobody", "/nonexistent")].lookup name

/-- A piece of a word with homes in place of tildes. `isStart` says that a tilde at its start counts,
`afterColons` that those after colons do, and `isLast` that nothing follows the piece. -/
def expandHomes (s : State) (afterColons isLast : Bool) : (fuel : Nat) → (isStart : Bool) →
    List Char → Word
  | 0, _, cs => [.text (String.ofList cs) false]
  | _, _, [] => []
  | fuel + 1, isStart, cs =>
    let endsName (c : Char) : Bool := c = '/' || (afterColons && c = ':')
    let name := cs.tail.takeWhile fun c => !endsName c
    let rest := cs.drop (name.length + 1)
    let home := if isStart && cs.head? = some '~' && (!rest.isEmpty || isLast) then
        homeOf? (String.ofList name) s
      else none
    match home with
    | some home => .text home true :: expandHomes s afterColons isLast fuel false rest
    | none =>
      if !afterColons then [.text (String.ofList cs) false]
      else
        let part := cs.takeWhile (· ≠ ':')
        match cs.drop part.length with
        | [] => [.text (String.ofList part) false]
        | _ :: rest =>
          .text (String.ofList (part ++ [':'])) false ::
            expandHomes s afterColons isLast fuel true rest

/-- Which tildes in a word stand for homes. -/
inductive Tildes where
  | none
  | atStart
  | afterColons
  deriving DecidableEq

def textPieces (s : State) (tildes : Tildes) (isStart isLast quoted : Bool) (t : String) : Word :=
  if quoted || tildes = .none || '~' ∉ t.toList then [.text t quoted]
  else expandHomes s (tildes = .afterColons) isLast (t.length + 1) isStart t.toList

/-! ## Parameters -/

/-- The parameters as fields: each is a field of its own if they are quoted. -/
def allParameters (values : List String) (quoted : Bool) : List Glyph :=
  let value (v : String) : List Glyph := Glyph.ofString v quoted (!quoted)
  match values with
  | [] => []
  | v :: vs =>
    .seam quoted :: (if quoted then [.quotes] else []) ++ value v ++
      vs.flatMap fun v => .cut quoted :: value v

/-- The value of a parameter in a word. `splits` says that the word is split into fields. -/
def parameterGlyphs (name : String) (quoted splits : Bool) (s : State) : Option (List Glyph) :=
  if splits && (name = "@" || (name = "*" && !quoted)) then some (allParameters s.args quoted)
  else (s.parameter? name).map fun v => Glyph.ofValue v quoted

def missingMessage (name message : String) (nonEmpty : Bool) : String :=
  name ++ ": " ++
    if message.isEmpty then "parameter not set" ++ (if nonEmpty then " or null" else "")
    else message

def unquoted (quoted : Bool) : Tildes := if quoted then .none else .atStart

mutual

/-- What the pieces of a word give. `splits` says that the word is split into fields, and `within`
that it stands in the braces of a parameter that is not quoted, so that its own text is split. -/
def expandPieces (capture : Script → State → String × State) (splits within : Bool)
    (tildes : Tildes) (isStart : Bool) : Word → State → List Glyph × State
  | [], s => ([], s)
  | p :: ps, s =>
    let (gs, s) := expandPiece capture splits within tildes isStart ps.isEmpty p s
    if !s.isGoing then ([], s)
    else
      let (more, s) := expandPieces capture splits within tildes false ps s
      (gs ++ more, s)

/-- What a piece of a word gives. -/
def expandPiece (capture : Script → State → String × State) (splits within : Bool)
    (tildes : Tildes) (isStart isLast : Bool) : Piece → State → List Glyph × State
  | .text t quoted, s =>
    let glyphs (p : Piece) : List Glyph :=
      match p with
      | .text t quoted => if within then Glyph.ofValue t quoted else Glyph.ofString t quoted false
      | _ => []
    ((textPieces s tildes isStart isLast quoted t).flatMap glyphs, s)
  | .quotes, s => ([.quotes], s)
  | .output body quoted, s =>
    let (output, s) := capture body s
    (Glyph.ofValue output quoted, s)
  | .arithmetic e quoted, s =>
    let (gs, s) := expandPieces capture false false .none true e s
    if !s.isGoing then ([], s)
    else
      let text := Glyph.text gs
      match Expression.evaluate (fun x => (s.textOf? x).getD "") text with
      | .error problem => ([], s.fail (problem.message text))
      | .ok (n, news) =>
        let s := news.foldl (fun s (x, n) =>
          if s.isGoing then s.assign x (toString n.toInt) else s) s
        (Glyph.ofValue (toString n.toInt) quoted, s)
  | .parameter name use quoted, s => expandUse capture splits name quoted use s

/-- What a parameter gives. -/
def expandUse (capture : Script → State → String × State) (splits : Bool) (name : String)
    (quoted : Bool) : Use → State → List Glyph × State
  | .unknown, s => ([], s.fail "Bad substitution")
  | .value, s =>
    match parameterGlyphs name quoted splits s with
    | some gs => (gs, s)
    | none =>
      ([], if s.has 'u' then s.fail (missingMessage name "" false) else s)
  | .length, s =>
    match s.parameter? name with
    | some v => (Glyph.ofValue (toString v.length) quoted, s)
    | none =>
      if s.has 'u' then ([], s.fail (missingMessage name "" false))
      else (Glyph.ofValue "0" quoted, s)
  | .trim atEnd longest pattern, s =>
    match s.parameter? name with
    | none => ([], if s.has 'u' then s.fail (missingMessage name "" false) else s)
    | some v =>
      let (gs, s) := expandPieces capture false false (unquoted quoted) true pattern s
      if !s.isGoing then ([], s)
      else
        let rest := (Pattern.ofLetters 0 (Glyph.letters gs)).trim atEnd longest v
        (Glyph.ofValue rest quoted, s)
  | .instead how nonEmpty word, s =>
    let isMissing := match s.parameter? name with
      | none => true
      | some v =>
        (nonEmpty && v.isEmpty) || ((name = "@" || name = "*") && s.args.isEmpty)
    match how, isMissing with
    | .substitute, true => ([], s)
    | .substitute, false | .fallback, true =>
      expandPieces capture splits (!quoted) (unquoted quoted) true word s
    | _, false => ((parameterGlyphs name quoted splits s).getD [], s)
    | .assign, true =>
      let (gs, s) := expandPieces capture false false (unquoted quoted) true word s
      if !s.isGoing then ([], s)
      else if !isName name then ([], s.fail (name ++ ": bad variable name"))
      else (Glyph.ofValue (Glyph.text gs) quoted, s.assign name (Glyph.text gs))
    | .complain, true =>
      let (gs, s) := expandPieces capture false false (unquoted quoted) true word s
      if !s.isGoing then ([], s)
      else ([], s.fail (missingMessage name (Glyph.text gs) nonEmpty))

end

/-! ## Words -/

def expandLetters (capture : Script → State → String × State) (tildes : Tildes) (w : Word)
    (s : State) : List Letter × State :=
  let (gs, s) := expandPieces capture false false tildes true w s
  (Glyph.letters gs, s)

def expandText (capture : Script → State → String × State) (tildes : Tildes) (w : Word)
    (s : State) : String × State :=
  let (ls, s) := expandLetters capture tildes w s
  (Letter.text ls, s)

def expandFields (capture : Script → State → String × State) (w : Word) (s : State) :
    List String × State :=
  let (gs, s) := expandPieces capture true false .atStart true w s
  if !s.isGoing then ([], s)
  else
    let fields := Field.split s.separators gs
    let texts := if s.has 'f' then fields.map Letter.text
      else fields.flatMap (expandPath s.files s.directory)
    (texts, s)

/-- The name at the start of a word that is an assignment, with the equals sign, and the rest of the
word. -/
def assignmentParts? (w : Word) : Option (String × Word) :=
  let lead := w.lead.toList
  let name := lead.takeWhile (· ≠ '=')
  let rest := lead.drop (name.length + 1)
  if name.length < lead.length && isName (String.ofList name) then
    some (String.ofList name ++ "=",
      if rest.isEmpty then w.tail else .text (String.ofList rest) false :: w.tail)
  else none

/-- The texts of the fields of some words. The words after a command that gives variables values are
not split where they are assignments. -/
def expandWords (capture : Script → State → String × State) (keeps : String → Bool) :
    List Word → (command : Option String) → State → List String × State
  | [], _, s => ([], s)
  | w :: ws, command, s =>
    let (texts, s) :=
      match if command.any keeps then assignmentParts? w else none with
      | some (name, value) =>
        let (text, s) := expandText capture .afterColons value s
        ([name ++ text], s)
      | none => expandFields capture w s
    if !s.isGoing then ([], s)
    else
      let isLead := command.all (· ∈ ["command", "-p", "--"])
      let command := if isLead then texts.head? <|> command else command
      let (more, s) := expandWords capture keeps ws command s
      (texts ++ more, s)

end Gutter.Shell
