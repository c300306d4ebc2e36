import Gutter.Shell.Tool

/-!
# Columns of lines

Some bytes or fields of each line, named by a list of ranges.
-/

namespace Gutter.Shell.Tool

/-! ## Ranges -/

/-- What a list of ranges counts. -/
inductive Counted where
  | places
  | fields
  deriving DecidableEq

/-- Why a list of ranges cannot be read. -/
inductive RangeFault where
  | secondDash
  | zero
  | noEnd
  | decreasing
  | tooLarge (number : String)
  | stray (rest : String)

namespace RangeFault

/-- The wording of a fault. -/
def message (c : Counted) (f : RangeFault) : String :=
  let choose (places fields : String) : String := if c = .places then places else fields
  match f with
  | .secondDash => choose "invalid byte or character range" "invalid field range"
  | .zero => choose "byte/character positions are numbered from 1" "fields are numbered from 1"
  | .noEnd => "invalid range with no endpoint: -"
  | .decreasing => "invalid decreasing range"
  | .tooLarge number =>
    choose "byte/character offset " "field number " ++ Quoting.word number ++ " is too large"
  | .stray rest =>
    choose "invalid byte/character position " "invalid field value " ++ Quoting.word rest

end RangeFault

structure Span where
  first : Nat
  last : Option Nat

namespace Span

def readNumber (cs : List Char) : Except RangeFault (Option Nat × List Char) :=
  let ds := cs.takeWhile Char.isDigit
  let n := ds.foldl (fun n c => n * 10 + (c.toNat - '0'.toNat)) 0
  if ds.isEmpty then .ok (none, cs)
  else if UInt64.size - 1 ≤ n then .error (.tooLarge (String.ofList ds))
  else .ok (some n, cs.drop ds.length)

/-- Reads what a list of ranges has between commas, and the commas. -/
def readList : (fuel : Nat) → List Char → Except RangeFault (List Span)
  | 0, _ => .ok []
  | fuel + 1, cs => do
    let endsPart (c : Char) : Bool := c = ',' || c = ' ' || c = '\t'
    let (low, rest) ← readNumber cs
    let (span, rest) ← match rest with
      | '-' :: rest => do
        if low = some 0 then throw .zero
        else
          let (high, rest) ← readNumber rest
          match rest with
          | '-' :: _ => throw .secondDash
          | c :: _ => if !endsPart c then throw (.stray (String.ofList rest))
          | [] => pure ()
          match low, high with
          | none, none => throw .noEnd
          | low, high =>
            if high.any (· < low.getD 1) then throw .decreasing
            else pure ((⟨low.getD 1, high⟩ : Span), rest)
      | c :: _ =>
        if !endsPart c then throw (.stray (String.ofList rest))
        else if low.getD 0 = 0 then throw .zero
        else pure (⟨low.getD 0, low⟩, rest)
      | [] => if low.getD 0 = 0 then throw .zero else pure (⟨low.getD 0, low⟩, rest)
    match rest with
    | [] => return [span]
    | _ :: rest => return span :: (← readList fuel rest)

/-- Ranges in their order, of which those that overlap are one. -/
def merge (spans : List Span) : List Span :=
  let sorted := spans.mergeSort fun a b => a.first ≤ b.first
  (sorted.foldl (fun done span =>
    match done with
    | last :: others =>
      if last.last.all (span.first ≤ ·) then
        let high := match last.last, span.last with
          | some a, some b => some (max a b)
          | _, _ => none
        ⟨last.first, high⟩ :: others
      else span :: done
    | [] => [span]) []).reverse

def complement (spans : List Span) : List Span :=
  let rec go (start : Nat) : List Span → List Span
    | [] => [⟨start, none⟩]
    | span :: spans =>
      let gap : List Span := if start < span.first then [⟨start, some (span.first - 1)⟩] else []
      match span.last with
      | none => gap
      | some last => gap ++ go (last + 1) spans
  go 1 spans

def ofText (complemented : Bool) (text : String) : Except RangeFault (List Span) := do
  let spans := merge (← readList (text.length + 1) text.toList)
  return if complemented then complement spans else spans

def slice {α : Type} (span : Span) (xs : List α) : List α :=
  let rest := xs.drop (span.first - 1)
  span.last.elim rest fun last => rest.take (last + 1 - span.first)

end Span

/-! ## Cutting -/

/-- What is cut out of lines. -/
structure CutPlan where
  counted : Counted
  spans : List Span
  delimiter : UInt8
  joint : List UInt8
  onlyDelimited : Bool
  terminator : UInt8

namespace CutPlan

/-- What is asked for by some options. -/
def ofOptions (o : Options) : Except String CutPlan := do
  let lists := o.given.filter fun x => x.1 ∈ ["b", "c", "f"]
  let delimiters := (o.given.filter (·.1 = "d")).map (Text.Octets.toBytes ·.2)
  if delimiters.any (·.length > 1) then throw "the delimiter must be a single character"
  else
    match lists with
    | [] => throw "you must specify a list of bytes, characters, or fields"
    | _ :: _ :: _ => throw "only one list may be specified"
    | [(key, list)] =>
      let counted : Counted := if key = "f" then .fields else .places
      if counted = .places && !delimiters.isEmpty then
        throw "an input delimiter may be specified only when operating on fields"
      else if counted = .places && o.has "s" then
        throw
          "suppressing non-delimited lines makes sense\n\tonly when operating on fields"
      else
        let spans ← (Span.ofText (o.has "complement") list).mapError (RangeFault.message counted)
        let delimiter := match delimiters.getLast? with
          | some bs => bs.headD 0
          | none => 0x09
        let joint := match o.value? "joint" with
          | some text => Text.Octets.toBytes text
          | none => if counted = .fields then [delimiter] else []
        return { counted, spans, delimiter, joint, onlyDelimited := o.has "s",
                 terminator := if o.has "z" then 0 else 0x0A }

/-- What is cut out of a line, if the line counts. -/
def row (plan : CutPlan) (bs : List UInt8) : Option (List UInt8) :=
  match plan.counted with
  | .places =>
    let parts := (plan.spans.map fun span => span.slice bs).filter (!·.isEmpty)
    some (plan.joint.intercalate parts)
  | .fields =>
    if plan.delimiter ∈ bs then
      let fields := bs.splitOn plan.delimiter
      some (plan.joint.intercalate (plan.spans.flatMap fun span => span.slice fields))
    else if plan.onlyDelimited then none
    else some bs

def apply (plan : CutPlan) (bs : List UInt8) : List UInt8 :=
  let ended (rows : List (List UInt8)) : List UInt8 := ofRecords plan.terminator rows
  if plan.counted = .fields && plan.delimiter = plan.terminator then
    match recordsOf plan.terminator bs with
    | [] => []
    | [row] => if plan.onlyDelimited then [] else ended [row]
    | rows => ended [plan.joint.intercalate (plan.spans.flatMap fun span => span.slice rows)]
  else ended ((recordsOf plan.terminator bs).filterMap plan.row)

end CutPlan

/-- Columns of the lines of files. -/
def cut : Tool := fun s =>
  let table : OptionTable :=
    { letters := "b:c:d:f:nsz"
      names := [("bytes", .value, "b"), ("characters", .value, "c"), ("fields", .value, "f"),
        ("delimiter", .value, "d"), ("only-delimited", .nothing, "s"),
        ("output-delimiter", .value, "joint"), ("complement", .nothing, "complement"),
        ("zero-terminated", .nothing, "z")]
      usage := "OPTION... [FILE]..." }
  s.withOptions table 1 fun o =>
    match CutPlan.ofOptions o with
    | .error e => s.misuse 1 e
    | .ok plan => s.mapEach o.words Supply.plainComplaint plan.apply

end Gutter.Shell.Tool
