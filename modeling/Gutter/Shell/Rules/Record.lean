import Gutter.Shell.Rules.Pattern
import Gutter.Shell.Rules.Value
import Gutter.Text.Octets

/-!
# Records and fields

How a text is split into records and a record into fields, and how it is put together again when a
field changes.
-/

namespace Gutter.Shell.Rules

/-! ## Matches in texts -/

/-- The first match of an expression in a text from a place on: where it starts and stops. -/
def findIn (r : Regex) (text : Array UInt8) (start : Nat) : Option (Nat × Nat) :=
  (r.find? text start).map fun m => (m.start, m.stop)

def bytesOf (s : String) : Array UInt8 := (Text.Octets.toBytes s).toArray

def textBetween (bs : Array UInt8) (i j : Nat) : String :=
  Text.Octets.ofBytes (bs.extract i j).toList

def findSome (r : Regex) (text : Array UInt8) : (fuel : Nat) → (start : Nat) → Option (Nat × Nat)
  | 0, _ => none
  | fuel + 1, start =>
    match findIn r text start with
    | none => none
    | some (i, j) => if i < j then some (i, j) else findSome r text fuel (i + 1)

/-! ## Separators -/

/-- What stands between the parts of a text. -/
inductive Separator where
  | blanks
  | byte (c : Char)
  | nothing
  | matching (r : Regex)

namespace Separator

def ofText (s : String) : Except Pattern.Fault Separator :=
  match s.toList with
  | [] => .ok .nothing
  | [' '] => .ok .blanks
  | [c] => .ok (.byte c)
  | _ => (Pattern.ofText s).map .matching

def partsFrom (r : Regex) (bs : Array UInt8) : (fuel : Nat) → (start : Nat) → List String
  | 0, start => [textBetween bs start bs.size]
  | fuel + 1, start =>
    match findSome r bs (bs.size + 1) start with
    | none => [textBetween bs start bs.size]
    | some (i, j) => textBetween bs start i :: partsFrom r bs fuel j

/-- The parts of a text. -/
def split (x : Separator) (s : String) : List String :=
  if s.isEmpty then []
  else
    match x with
    | blanks =>
      ((s.toList.splitOnP fun c => c ∈ [' ', '\t', '\n', '\x0B', '\x0C', '\r']).filter
        (!·.isEmpty)).map String.ofList
    | byte c => (s.toList.splitOn c).map String.ofList
    | nothing => s.toList.map Char.toString
    | matching .empty => s.toList.map Char.toString
    | matching r => partsFrom r (bytesOf s) (s.length + 1) 0

end Separator

/-! ## Records -/

structure Record where
  text : Value := .given ""
  fields : Array Value := #[]
  deriving Inhabited

namespace Record

def ofText (separator : Separator) (text : Value) (s : String) : Record :=
  { text, fields := ((separator.split s).map Value.given).toArray }

/-- The value of a field; the field zero is the record. -/
def get (n : Nat) (r : Record) : Value := if n = 0 then r.text else r.fields.getD (n - 1) (.text "")

def withFields (textOf : Value → String) (between : String) (fields : Array Value) : Record :=
  { text := .text (between.intercalate (fields.toList.map textOf)), fields }

def resized (count : Nat) (fields : Array Value) : Array Value :=
  fields.extract 0 count ++ Array.replicate (count - fields.size) (.text "")

end Record

/-! ## Input -/

/-- The record at the front of some input, and what follows it. Lines without anything in them stand
between records if the separator is empty. -/
def nextRecord (separator : String) (cs : List Char) :
    Except Pattern.Fault (Option (String × List Char)) :=
  let upTo (c : Char) (cs : List Char) : Option (String × List Char) :=
    if cs.isEmpty then none
    else
      let record := cs.takeWhile (· ≠ c)
      some (String.ofList record, cs.drop (record.length + 1))
  match separator.toList with
  | [c] => .ok (upTo c cs)
  | [] =>
    let cs := cs.dropWhile (· = '\n')
    let rec go : List Char → List Char × List Char
      | [] => ([], [])
      | '\n' :: '\n' :: rest => ([], rest.dropWhile (· = '\n'))
      | ['\n'] => ([], [])
      | c :: rest =>
        let (record, after) := go rest
        (c :: record, after)
    if cs.isEmpty then .ok none
    else
      let (record, after) := go cs
      .ok (some (String.ofList record, after))
  | _ => do
    if cs.isEmpty then return none
    let r ← Pattern.ofText separator
    let bs := (cs.map fun c => UInt8.ofNat c.toNat).toArray
    match findSome r bs (bs.size + 1) 0 with
    | none => return some (String.ofList cs, [])
    | some (i, j) => return some (String.ofList (cs.take i), cs.drop j)

/-! ## Replacing -/

/-- A part of what is put in place of a match. -/
inductive NewPart where
  | literal (s : List Char)
  | whole
  deriving DecidableEq, Repr

/-- The parts of a text that is put in place of a match. An ampersand is the match, unless there is an
odd number of backslashes in front of it; each two of them are one then. -/
def newParts : (fuel : Nat) → List Char → List NewPart
  | 0, cs => [.literal cs]
  | _, [] => []
  | fuel + 1, '&' :: cs => .whole :: newParts fuel cs
  | fuel + 1, '\\' :: cs =>
    let more := cs.takeWhile (· = '\\')
    let count := more.length + 1
    match cs.drop more.length with
    | '&' :: rest =>
      .literal (List.replicate (count / 2) '\\') ::
        (if count % 2 = 0 then .whole else .literal ['&']) :: newParts fuel rest
    | rest => .literal (List.replicate count '\\') :: newParts fuel rest
  | fuel + 1, c :: cs => .literal [c] :: newParts fuel cs

def replacement (parts : List NewPart) (found : List Char) : List Char :=
  parts.flatMap fun
    | .literal cs => cs
    | .whole => found

/-- A text with matches replaced from a place on, in parts, and how many there are. `last?` is the
place where the match before has stopped. -/
def replaceFrom (r : Regex) (parts : List NewPart) (isGlobal : Bool) (bs : Array UInt8) :
    (fuel : Nat) → (start : Nat) → (last? : Option Nat) → (done : List String) → (count : Nat) →
    String × Nat
  | 0, start, _, done, count =>
    (String.join (textBetween bs start bs.size :: done).reverse, count)
  | fuel + 1, start, last?, done, count =>
    let finish : String × Nat :=
      (String.join (textBetween bs start bs.size :: done).reverse, count)
    if bs.size < start then finish
    else
      match findIn r bs start with
      | none => finish
      | some (i, j) =>
        let isEmpty : Bool := i = j
        let behind := if isEmpty then j + 1 else j
        let skipped := textBetween bs j behind
        if isEmpty && last? = some i then
          replaceFrom r parts isGlobal bs fuel behind none
            (skipped :: textBetween bs start i :: done) count
        else
          let new := String.ofList (replacement parts (textBetween bs i j).toList)
          let done := new :: textBetween bs start i :: done
          if isGlobal then
            replaceFrom r parts isGlobal bs fuel behind (some j) (skipped :: done) (count + 1)
          else (String.join (textBetween bs j bs.size :: done).reverse, count + 1)

def replaceIn (r : Regex) (new : String) (isGlobal : Bool) (s : String) : String × Nat :=
  let bs := bytesOf s
  replaceFrom r (newParts (new.length + 1) new.toList) isGlobal bs (bs.size + 2) 0 none [] 0

/-! ## Parts of texts -/

/-- The part of a text from a place on, counted from one, perhaps with a length. Both are cut to whole
numbers; places in front of the text make the part longer. -/
def partOf (s : String) (start : Float) (length? : Option Float) : String :=
  let first := Number.toInt32 start
  let place := (max first 1).toNat - 1
  match length? with
  | none => String.ofList (s.toList.drop place)
  | some length =>
    let count := Number.toInt32 length
    let count := if first < 0 then (count - first).bmod UInt32.size else count
    String.ofList ((s.toList.drop place).take count.toNat)

/-- The place of a text in another one, counted from one; zero if it is not there. -/
def indexOf (s part : String) : Nat :=
  let cs := s.toList
  match (List.range (cs.length + 1)).find? fun i => part.toList.isPrefixOf (cs.drop i) with
  | some i => i + 1
  | none => 0

end Gutter.Shell.Rules
