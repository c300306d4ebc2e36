import Gutter.Files
import Gutter.Linter.Failure
import Gutter.Shell.Number
import Gutter.Shell.Script
import Gutter.Text.Octets

/-!
# The state of a shell

What a shell knows and what it is connected to. The shells that a shell starts share its files and
streams; all else is their own.
-/

namespace Gutter.Shell

/-- What can be read from or written to. -/
inductive Stream where
  | source (rest : List UInt8)
  | collector (written : List UInt8)
  | journal (number : Nat)
  | file (location : Location) (offset : Nat) (mode : Mode)
  | device (d : Device)
  | directory

/-- A variable. -/
structure Variable where
  value : Option String
  isExported : Bool := false
  isReadOnly : Bool := false

structure Outside where
  bindings : List (String × Option Variable) := []
  options : Option (List Char) := none

/-- What happens after a command. -/
inductive Flow where
  | going
  | breaking (loops : Nat)
  | continuing (loops : Nat)
  | returning
  | failed
  | ended (status : ExitStatus)
  deriving DecidableEq, Repr

/-- The state of a shell. -/
structure State where
  name : String
  number : Nat := 2
  args : List String := []
  bindings : List (String × Variable) := []
  hidden : List Outside := []
  definitions : List (String × Script) := []
  directory : Location
  path : String
  files : Files
  streams : List Stream
  journal : List (Nat × List UInt8) := []
  descriptors : List (Nat × Nat) := [(0, 0), (1, 1), (2, 2)]
  status : Nat := 0
  substituted : Nat := 0
  options : List Char := []
  flow : Flow := .going
  line : Nat := 0
  caller : Option String := none
  loops : Nat := 0
  calls : Nat := 0
  traps : List (Nat × String) := []
  signals : List Nat := []
  isPart : Bool := false
  mask : Nat := 18
  jobs : List (Nat × Nat) := []
  optionPlace : Nat × Nat := (1, 0)
  aliases : List (String × String) := []
  tracked : List (String × String) := []
  limits : List (Char × String) := []

namespace State

def isGoing (s : State) : Bool := s.flow = .going

def finish (status : Nat) (s : State) : State := { s with status }

def has (option : Char) (s : State) : Bool := option ∈ s.options

/-! ## Streams -/

def stream? (n : Nat) (s : State) : Option (Nat × Stream) := do
  let i ← s.descriptors.lookup n
  let stream ← s.streams[i]?
  return (i, stream)

def connect (n : Nat) (index : Option Nat) (s : State) : State :=
  let others := s.descriptors.filter (·.1 ≠ n)
  { s with descriptors := index.elim others fun i => (n, i) :: others }

def addStream (stream : Stream) (s : State) : Nat × State :=
  (s.streams.length, { s with streams := s.streams ++ [stream] })

def overwrite (old : List UInt8) (offset : Nat) (new : List UInt8) : List UInt8 :=
  let start := old.take offset
  start ++ List.replicate (offset - start.length) 0 ++ new ++ old.drop (offset + new.length)

/-- Writes to a stream, if that is possible. A file that is gone takes everything. -/
def write? (n : Nat) (bytes : List UInt8) (s : State) : Except FileError State :=
  match s.stream? n with
  | none => .error .badDescriptor
  | some (i, stream) =>
    match stream with
    | .source _ | .directory => .error .badDescriptor
    | .collector written =>
      .ok { s with streams := s.streams.set i (.collector (bytes.reverse ++ written)) }
    | .journal number => .ok { s with journal := (number, bytes) :: s.journal }
    | .device .full => if bytes.isEmpty then .ok s else .error .full
    | .device _ => .ok s
    | .file l offset mode =>
      if mode = .read then .error .badDescriptor
      else
        let old := s.files.contents? l
        let offset := if mode = .append then (old.getD []).length else offset
        .ok { s with
          files := old.elim s.files fun old => s.files.insert l (overwrite old offset bytes)
          streams := s.streams.set i (.file l (offset + bytes.length) mode) }

/-- Writes to a stream; if that is not possible, nothing is written. -/
def write (n : Nat) (bytes : List UInt8) (s : State) : State :=
  (s.write? n bytes).toOption.getD s

def readable (n : Nat) (s : State) : Except FileError (List UInt8) :=
  match s.stream? n with
  | some (_, .source rest) => .ok rest
  | some (_, .device _) => .ok []
  | some (_, .directory) => .error .isDirectory
  | some (_, .file l offset mode) =>
    if mode = .read || mode = .readWrite then .ok (((s.files.contents? l).getD []).drop offset)
    else .error .badDescriptor
  | _ => .error .badDescriptor

def consume (n count : Nat) (s : State) : State :=
  match s.stream? n with
  | some (i, .source rest) => { s with streams := s.streams.set i (.source (rest.drop count)) }
  | some (i, .file l offset mode) =>
    { s with streams := s.streams.set i (.file l (offset + count) mode) }
  | _ => s

def unread (index : Nat) (s : State) : Nat :=
  match s.streams[index]? with
  | some (.source rest) => rest.length
  | _ => 0

def collected (index : Nat) (s : State) : List UInt8 :=
  match s.streams[index]? with
  | some (.collector written) => written.reverse
  | _ => []

/-- What a number is connected to; a pipe is a stream. -/
def node? (n : Nat) (s : State) : Option Node :=
  (s.stream? n).bind fun (_, stream) =>
    match stream with
    | .source _ | .collector _ | .journal _ => some (.stream n)
    | .file l .. => s.files.node? l
    | .device d => some (.device d)
    | .directory => some .directory

def contents (path : String) (s : State) : Except FileError (List UInt8) :=
  let path : Path := ⟨Text.Octets.toBytes path⟩
  match s.files.lookup s.directory path with
  | .ok (_, .stream n) => if (s.stream? n).isSome then s.readable n else .error .notFound
  | _ => s.files.read s.directory path

/-! ## Complaints -/

def complain (text : String) (s : State) : State :=
  let caller := s.caller.elim "" (· ++ ": ")
  s.write 2 (Text.Octets.toBytes
    (s.name ++ ": " ++ toString s.line ++ ": " ++ caller ++ text ++ "\n"))

def fail (text : String) (s : State) : State :=
  { s.complain text with status := 2, flow := .failed }

/-! ## Variables -/

def textOf? (name : String) (s : State) : Option String :=
  (s.bindings.lookup name).bind Variable.value

def modifyVariable (name : String) (f : Variable → Variable) (s : State) : State :=
  if s.bindings.any (·.1 = name) then
    { s with bindings := s.bindings.map fun x => if x.1 = name then (name, f x.2) else x }
  else { s with bindings := s.bindings ++ [(name, f { value := none })] }

def isReadOnly (name : String) (s : State) : Bool :=
  (s.bindings.lookup name).any Variable.isReadOnly

/-- What follows from a change of a variable: in other directories programs are looked for anew, and
the place of the next option is at the start of a word, which must have a number. -/
def afterChange (name value : String) (s : State) : State :=
  match name with
  | "PATH" => { s with tracked := [] }
  | "OPTIND" =>
    match Number.count? value with
    | some n => { s with optionPlace := (max n 1, 0) }
    | none => s.fail ("Illegal number: " ++ value)
  | _ => s

def assign (name value : String) (s : State) : State :=
  if s.isReadOnly name then s.fail (name ++ ": is read only")
  else
    (s.modifyVariable name fun v =>
      { v with value := some value, isExported := v.isExported || s.has 'a' }).afterChange name value

def unset (name : String) (s : State) : State :=
  if s.isReadOnly name then s.fail (name ++ ": is read only")
  else { s with bindings := s.bindings.filter (·.1 ≠ name) }.afterChange name ""

def hide (name : String) (s : State) : State :=
  match s.hidden with
  | [] => s
  | call :: calls =>
    let bindings := (name, s.bindings.lookup name) :: call.bindings
    { s with hidden := { call with bindings } :: calls }

def hideOptions (s : State) : State :=
  match s.hidden with
  | [] => s
  | call :: calls =>
    { s with hidden := { call with options := call.options <|> some s.options } :: calls }

def enter (s : State) : State := { s with hidden := {} :: s.hidden }

def putBack (bindings : List (String × Variable)) (name : String) (old : Option Variable) :
    List (String × Variable) :=
  match old with
  | none => bindings.filter (·.1 ≠ name)
  | some v =>
    if bindings.any (·.1 = name) then
      bindings.map fun x => if x.1 = name then (name, v) else x
    else bindings ++ [(name, v)]

/-- Ends a call: its local variables and options are what they were before. -/
def leave (s : State) : State :=
  match s.hidden with
  | [] => s
  | call :: calls =>
    { s with
      bindings := call.bindings.foldl (fun bs x => putBack bs x.1 x.2) s.bindings
      tracked := if call.bindings.any (·.1 = "PATH") then [] else s.tracked
      options := call.options.getD s.options
      hidden := calls }

/-- The shelf on which a name is kept: it is given by the sum of its bytes, in which the first one
counts more. Lists of names go from shelf to shelf. -/
def shelf (count : Nat) (name : String) : Nat :=
  let codes := name.toList.map Char.toNat
  (Number.total codes + (codes.headD 0) * 16) % count

def shelved {α : Type} (count : Nat) (xs : List (String × α)) : List (String × α) :=
  xs.mergeSort fun a b => shelf count a.1 ≤ shelf count b.1

def environment (s : State) : List (String × String) :=
  (shelved 39 s.bindings).filterMap fun (name, v) =>
    if v.isExported then v.value.map fun value => (name, value) else none

def separators (s : State) : List Char :=
  match s.textOf? "IFS" with
  | some text => text.toList
  | none => [' ', '\t', '\n']

def joint (s : State) : String :=
  match s.textOf? "IFS" with
  | some text => String.ofList (text.toList.take 1)
  | none => " "

def optionLetters : List Char := ['u', 'b', 'a', 'C', 'E', 'V', 'v', 'x', 's', 'n', 'm', 'i', 'I',
  'f', 'e']

/-- The value of a parameter. -/
def parameter? (name : String) (s : State) : Option String :=
  match name with
  | "?" => some (toString s.status)
  | "#" => some (toString s.args.length)
  | "$" => some (toString s.number)
  | "!" => s.jobs.head?.map fun job => toString job.1
  | "-" => some (String.ofList (optionLetters.filter (· ∈ s.options)))
  | "@" | "*" => some (s.joint.intercalate s.args)
  | name =>
    match name.toNat? with
    | some 0 => some s.name
    | some n => s.args[n - 1]?
    | none => s.textOf? name

/-! ## Parts -/

def part (s : State) : State :=
  { s with isPart := true, traps := s.traps.filter (·.2.isEmpty), signals := [] }

def exitStatus (s : State) : ExitStatus :=
  match s.flow with
  | .ended status => status
  | _ => .code s.status

def statusNumber : ExitStatus → Nat
  | .code n => n % 256
  | .signal n => 128 + n

/-- The state after a part: only what it did to the files and to the streams of the shell around it
lasts, and signals have come. -/
def afterPart (inner outer : State) : State :=
  { outer with
    files := inner.files
    streams := inner.streams.take outer.streams.length
    journal := inner.journal
    status := statusNumber inner.exitStatus
    signals := outer.signals ++ inner.signals }

end State

end Gutter.Shell
