import Gutter.Json.Lexeme

/-!
# Drafts

A draft is what a JSON text looks like before it is known what the text should describe. Faults do
not stop a draft from being made: they stand at the place where they are, so that a reader who goes
through the draft from left to right meets the first thing that is wrong for it, be it a fault or a
value it did not ask for. Whoever passes over a part only skims it, and meets fewer faults.
-/

namespace Gutter.Json

/-- How a list or an object ends. It is cut where the text ends or reading stops, and loose if a
reader that knows enough need not go as far as its closing bracket. -/
inductive Close where
  | closed
  | cut
  | cutAfterComma
  | noComma
  | trailingComma
  | loose
  deriving DecidableEq, Repr

/-- What a JSON text looks like. A key that is no string is the last thing that is read. -/
inductive Draft where
  | gap (fault : Fault)
  | word (value : Except Fault Word)
  | number (value : Except Fault Number) (skim : Except Fault Unit)
  | string (value : Except Fault String) (skim : Except Fault Unit)
  | list (items : List Draft) (close : Close)
  | object (members : List (Draft × Draft)) (close : Close)

namespace Close

/-- The fault that a list ends with when it is read. -/
def listFault? : Close → Option Fault
  | .closed | .loose => none
  | .cut => some .endInList
  | .cutAfterComma => some .endInValue
  | .noComma => some .noCommaInList
  | .trailingComma => some .trailingComma

/-- The fault that an object ends with when it is read. -/
def objectFault? : Close → Option Fault
  | .closed | .loose => none
  | .cut => some .endInObject
  | .cutAfterComma => some .endInValue
  | .noComma => some .noCommaInObject
  | .trailingComma => some .trailingComma

/-- The fault that a list ends with when it is skimmed. -/
def listSkimFault? : Close → Option Fault
  | .closed | .loose => none
  | .cut => some .endInList
  | .cutAfterComma => some .endInValue
  | .noComma => some .noCommaInList
  | .trailingComma => some .noValue

/-- The fault that an object ends with when it is skimmed. -/
def objectSkimFault? : Close → Option Fault
  | .closed | .loose => none
  | .cut => some .endInObject
  | .cutAfterComma => some .endInObject
  | .noComma => some .noCommaInObject
  | .trailingComma => some .keyNotString

end Close

def check : Option Fault → Except Fault Unit
  | none => .ok ()
  | some f => .error f

namespace Draft

def skimKey : Draft → Except Fault Unit
  | .string _ skim => skim
  | _ => .error .keyNotString

mutual

/-- What a look at a draft gives when it is only skimmed. -/
def skim : Draft → Except Fault Unit
  | .gap fault => .error fault
  | .word value => value.map fun _ => ()
  | .number _ skim => skim
  | .string _ skim => skim
  | .list items close => do skimItems items; check close.listSkimFault?
  | .object members close => do skimMembers members; check close.objectSkimFault?

def skimItems : List Draft → Except Fault Unit
  | [] => .ok ()
  | d :: ds => do skim d; skimItems ds

def skimMembers : List (Draft × Draft) → Except Fault Unit
  | [] => .ok ()
  | (key, value) :: ms => do skimKey key; skim value; skimMembers ms

end

/-! ## Making a draft -/

def ofPart {α : Type} (make : Except Fault α → Except Fault Unit → Draft) (p : Part α) :
    Draft × Option (List UInt8) :=
  (make p.value (p.rest.map fun _ => ()), p.rest.toOption)

mutual

/-- The draft of the value that starts here, and the text after it unless reading stops. -/
def value : (fuel : Nat) → List UInt8 → Draft × Option (List UInt8)
  | 0, _ => (.gap .noValue, none)
  | fuel + 1, bytes =>
    match skipGap bytes with
    | [] => (.gap .endInValue, none)
    | 0x6E :: rest => ofPart (fun v _ => .word v) (Word.scan .null [0x75, 0x6C, 0x6C] rest)
    | 0x74 :: rest =>
      ofPart (fun v _ => .word v) (Word.scan (.boolean true) [0x72, 0x75, 0x65] rest)
    | 0x66 :: rest =>
      ofPart (fun v _ => .word v) (Word.scan (.boolean false) [0x61, 0x6C, 0x73, 0x65] rest)
    | 0x22 :: rest => ofPart .string (scanString rest)
    | 0x5B :: rest =>
      match skipGap rest with
      | [] => (.list [] .cut, none)
      | 0x5D :: after => (.list [] .closed, some after)
      | rest =>
        let (items, close, after) := items fuel rest
        (.list items close, after)
    | 0x7B :: rest =>
      match skipGap rest with
      | [] => (.object [] .cut, none)
      | 0x7D :: after => (.object [] .closed, some after)
      | rest =>
        let (members, close, after) := members fuel rest
        (.object members close, after)
    | 0x2D :: rest => ofPart .number (Numeral.scan true rest)
    | b :: rest =>
      if isDigit b then ofPart .number (Numeral.scan false (b :: rest)) else (.gap .noValue, none)

/-- The items of a list from the one that starts here, how the list ends, and the text after it. -/
def items : (fuel : Nat) → List UInt8 → List Draft × Close × Option (List UInt8)
  | 0, _ => ([], .cut, none)
  | fuel + 1, bytes =>
    match value fuel bytes with
    | (item, none) => ([item], .cut, none)
    | (item, some rest) =>
      match skipGap rest with
      | [] => ([item], .cut, none)
      | 0x5D :: after => ([item], .closed, some after)
      | 0x2C :: rest =>
        match skipGap rest with
        | [] => ([item], .cutAfterComma, none)
        | 0x5D :: _ => ([item], .trailingComma, none)
        | rest =>
          let (more, close, after) := items fuel rest
          (item :: more, close, after)
      | _ => ([item], .noComma, none)

/-- The members of an object from the one that starts here, how the object ends, and the text after
it. -/
def members : (fuel : Nat) → List UInt8 → List (Draft × Draft) × Close × Option (List UInt8)
  | 0, _ => ([], .cut, none)
  | fuel + 1, bytes =>
    match value fuel bytes with
    | (.string content skim, some rest) =>
      let key := Draft.string content skim
      match skipGap rest with
      | [] => ([(key, .gap .endInObject)], .cut, none)
      | 0x3A :: rest =>
        match value fuel rest with
        | (v, none) => ([(key, v)], .cut, none)
        | (v, some rest) =>
          match skipGap rest with
          | [] => ([(key, v)], .cut, none)
          | 0x7D :: after => ([(key, v)], .closed, some after)
          | 0x2C :: rest =>
            match skipGap rest with
            | [] => ([(key, v)], .cutAfterComma, none)
            | 0x7D :: _ => ([(key, v)], .trailingComma, none)
            | rest =>
              let (more, close, after) := members fuel rest
              ((key, v) :: more, close, after)
          | _ => ([(key, v)], .noComma, none)
      | _ => ([(key, .gap .noColon)], .cut, none)
    | (key, _) => ([(key, .gap .keyNotString)], .cut, none)

end

/-- The draft of a whole text, and the text after the value unless reading stops in it. Each step of
reading takes a byte away or looks at the byte that the next step takes, so two steps for each byte
suffice. -/
def ofBytes (bytes : List UInt8) : Draft × Option (List UInt8) :=
  value (2 * bytes.length + 2) bytes

end Draft

end Gutter.Json
