import Gutter.Shell.Pattern
import Gutter.Shell.Tool

/-!
# Translating characters

Two lists of characters say which characters of a text are replaced by which, deleted, or left out
where they repeat.
-/

namespace Gutter.Shell.Tool

/-! ## Lists of characters -/

structure ListChar where
  byte : UInt8
  isEscaped : Bool

/-- Reads escapes. The answer has warnings too. -/
def readEscapes : (fuel : Nat) → List UInt8 → List ListChar × List String
  | 0, _ => ([], [])
  | _, [] => ([], [])
  | fuel + 1, 0x5C :: rest =>
    let isOctal (b : UInt8) : Bool := 0x30 ≤ b && b ≤ 0x37
    match rest with
    | [] =>
      ([⟨0x5C, false⟩],
        ["warning: an unescaped backslash at end of string is not portable"])
    | b :: more =>
      let ds := (rest.take 3).takeWhile isOctal
      let value (ds : List UInt8) : Nat := ds.foldl (fun n d => n * 8 + (d.toNat - 0x30)) 0
      if ds.isEmpty then
        let named : List (UInt8 × UInt8) := [(0x61, 0x07), (0x62, 0x08), (0x66, 0x0C),
          (0x6E, 0x0A), (0x72, 0x0D), (0x74, 0x09), (0x76, 0x0B)]
        let (cs, warnings) := readEscapes fuel more
        (⟨(named.lookup b).getD b, true⟩ :: cs, warnings)
      else
        let isTooBig := 255 < value ds
        let used := if isTooBig then ds.take 2 else ds
        let (cs, warnings) := readEscapes fuel (rest.drop used.length)
        let digits := Text.Octets.ofBytes ds
        let warning := "warning: the ambiguous octal escape \\" ++ digits ++
          " is being\n\tinterpreted as the 2-byte sequence \\0" ++ (digits.take 2).toString ++ ", " ++
          (digits.drop 2).toString
        (⟨UInt8.ofNat (value used), true⟩ :: cs, if isTooBig then warning :: warnings else warnings)
  | fuel + 1, b :: bs =>
    let (cs, warnings) := readEscapes fuel bs
    (⟨b, false⟩ :: cs, warnings)

/-- A part of a list of characters. -/
inductive ListPart where
  | char (b : UInt8)
  | span (low high : UInt8)
  | property (name : String)
  | same (b : UInt8)
  | repeated (b : UInt8) (count : Option Nat)
  deriving DecidableEq

def allBytes : List UInt8 := (List.range 256).map UInt8.ofNat

namespace ListPart

def bytes : ListPart → List UInt8
  | .char b => [b]
  | .span low high => allBytes.filter fun b => low ≤ b && b ≤ high
  | .property name => allBytes.filter fun b => Range.hasProperty name (Char.ofNat b.toNat)
  | .same b => [b]
  | .repeated b count => List.replicate (count.getD 0) b

def isProperty : ListPart → Bool
  | .property _ => true
  | _ => false

def letterCase? : ListPart → Option String
  | .property name => if name = "upper" || name = "lower" then some name else none
  | _ => none

def isOpen : ListPart → Bool
  | .repeated _ none => true
  | _ => false

end ListPart

/-- How characters are written in complaints. -/
def shownChars (bs : List UInt8) : String :=
  let named : List (UInt8 × String) := [(0x5C, "\\\\"), (0x07, "\\a"), (0x08, "\\b"),
    (0x0C, "\\f"), (0x0A, "\\n"), (0x0D, "\\r"), (0x09, "\\t"), (0x0B, "\\v")]
  String.join (bs.map fun b =>
    match named.lookup b with
    | some text => text
    | none =>
      if 0x20 ≤ b && b < 0x7F then (Char.ofNat b.toNat).toString
      else
        let digit (n : Nat) : Char := Nat.digitChar (n % 8)
        String.ofList ['\\', digit (b.toNat / 64), digit (b.toNat / 8), digit b.toNat])

namespace ListChar

def isSign (sign : UInt8) (c : ListChar) : Bool := c.byte = sign && !c.isEscaped

def startsWith (sign : UInt8) (cs : List ListChar) : Bool := cs.head?.any (isSign sign)

def before? (sign : UInt8) : List ListChar → Option (List ListChar)
  | a :: b :: cs =>
    if a.isSign sign && b.isSign 0x5D then some []
    else (before? sign (b :: cs)).map (a :: ·)
  | _ => none

/-- The count of a repeated character: what stands before the closing bracket. -/
def count? (text : List UInt8) : Option (Option Nat) :=
  let base := if text.head? = some 0x30 then 8 else 10
  let digit? (b : UInt8) : Option Nat :=
    if 0x30 ≤ b && b.toNat < 0x30 + base then some (b.toNat - 0x30) else none
  if text.isEmpty then some none
  else
    (text.mapM digit?).bind fun ds =>
      let n := ds.foldl (fun n d => n * base + d) 0
      if n < UInt64.size - 1 then some (if n = 0 then none else some n) else none

/-- Reads a repeated character behind an opening bracket, and how many characters it takes. -/
def readRepeated? (cs : List ListChar) : Option (Except String (ListPart × Nat)) :=
  match cs with
  | c :: star :: rest =>
    let text := rest.takeWhile fun c => !c.isEscaped && c.byte ≠ 0x5D
    if star.isSign 0x2A && startsWith 0x5D (rest.drop text.length) then
      some <|
        match count? (text.map ListChar.byte) with
        | some count => .ok (.repeated c.byte count, text.length + 3)
        | none => .error ("invalid repeat count " ++
            Quoting.word (shownChars (text.map ListChar.byte)) ++ " in [c*n] construct")
    else none
  | _ => none

/-- Reads a named property or a sign of equal characters behind an opening bracket, and how many
characters it takes. -/
def readNamed? (cs : List ListChar) : Option (Except String (ListPart × Nat)) :=
  match cs with
  | sign :: rest =>
    if !(sign.isSign 0x3A || sign.isSign 0x3D) then none
    else
      (before? sign.byte rest).map fun name =>
        let bytes := name.map ListChar.byte
        let text := Text.Octets.ofBytes bytes
        if sign.byte = 0x3A then
          if name.isEmpty then .error "missing character class name '[::]'"
          else if text ∈ Range.properties then .ok (.property text, name.length + 3)
          else .error ("invalid character class " ++ Quoting.word (shownChars bytes))
        else
          match bytes with
          | [] => .error "missing equivalence class character '[==]'"
          | [b] => .ok (.same b, 4)
          | bytes => .error (shownChars bytes ++
              ": equivalence class operand must be a single character")
  | [] => none

def readBracket? (cs : List ListChar) : Option (Except String (ListPart × Nat)) :=
  match readNamed? cs with
  | some (.ok part) => some (.ok part)
  | some (.error e) => if e.startsWith "missing" then some (.error e)
      else match readRepeated? cs with
        | some found => some found
        | none => some (.error e)
  | none => readRepeated? cs

/-- The parts of a list. -/
def parts : (fuel : Nat) → List ListChar → Except String (List ListPart)
  | 0, _ => .ok []
  | _, [] => .ok []
  | fuel + 1, a :: cs => do
    match if a.isSign 0x5B && 1 < cs.length then readBracket? cs else none with
    | some (.error e) => throw e
    | some (.ok (part, n)) => return part :: (← parts fuel (cs.drop n))
    | none =>
      match cs with
      | dash :: b :: rest =>
        if !dash.isSign 0x2D then return .char a.byte :: (← parts fuel cs)
        else if b.byte < a.byte then
          throw ("range-endpoints of '" ++ shownChars [a.byte] ++ "-" ++ shownChars [b.byte] ++
            "' are in reverse collating sequence order")
        else return .span a.byte b.byte :: (← parts fuel rest)
      | cs => return .char a.byte :: (← parts fuel cs)

end ListChar

abbrev CharList := List ListPart

namespace CharList

def bytes (l : CharList) : List UInt8 := l.flatMap ListPart.bytes

def fill (length : Nat) (l : CharList) : CharList :=
  let missing := length - l.bytes.length
  l.map fun part =>
    match part with
    | .repeated b none => .repeated b (some missing)
    | part => part

/-- The pairs of two lists for a replacement: where a property of letters stands in both, the
letters of one case are replaced by those of the other. -/
def pairs : (fuel : Nat) → CharList → CharList → Except String (List (UInt8 × UInt8))
  | 0, _, _ => .ok []
  | fuel + 1, first, second => do
    let misaligned := "misaligned [:upper:] and/or [:lower:] construct"
    match first, second with
    | p :: first, q :: second =>
      match p.letterCase?, q.letterCase? with
      | some a, some b =>
        let own := if a = b then [] else
          (ListPart.property a).bytes.zip (ListPart.property b).bytes
        return own ++ (← pairs fuel first second)
      | _, some _ => if p.bytes.isEmpty then pairs fuel first (q :: second) else throw misaligned
      | _, none =>
        match p.bytes, q.bytes with
        | [], _ => pairs fuel first (q :: second)
        | _, [] => pairs fuel (p :: first) second
        | a :: as, b :: bs =>
          return (a, b) :: (← pairs fuel (as.map ListPart.char ++ first)
            (bs.map ListPart.char ++ second))
    | _, _ => return []

end CharList

/-! ## Translating -/

def squeeze (set : List UInt8) (bs : List UInt8) : List UInt8 :=
  (bs.foldl (fun done b =>
    match done with
    | last :: _ => if b = last && b ∈ set then done else b :: done
    | [] => [b]) []).reverse

/-- What is replaced by what if lists of characters are used for a replacement. -/
def replacement (isComplement isTruncated : Bool) (first second : CharList) :
    Except String (List (UInt8 × UInt8)) := do
  let outside := allBytes.filter (· ∉ first.bytes)
  let length := if isComplement then outside.length else first.bytes.length
  let properties : CharList := second.filter ListPart.isProperty
  let isSame (part : ListPart) : Bool := match part with
    | .same _ => true
    | _ => false
  if second.any isSame then
    throw "[=c=] expressions may not appear in string2 when translating"
  else if properties.any fun part => part.letterCase?.isNone then
    throw ("when translating, the only character classes that may appear in\n" ++
      "string2 are 'upper' and 'lower'")
  else
    let second := second.fill length
    let paired ← if isComplement || properties.isEmpty then pure [] else
      CharList.pairs (first.bytes.length + second.bytes.length + second.length + 2) first second
    let isShort : Bool := second.bytes.length < length && !isTruncated
    let isLastOpen := second.getLast?.any ListPart.isProperty
    let bytes := second.bytes
    let padded := match bytes.getLast? with
      | some last => if isShort then bytes ++ List.replicate (length - bytes.length) last else bytes
      | none => []
    if isShort && bytes.isEmpty then
      throw "when not truncating set1, string2 must be non-empty"
    else if isShort && isLastOpen then
      throw ("when translating with string1 longer than string2,\n" ++
        "the latter string must not end with a character class")
    else if isComplement && first.any ListPart.isProperty &&
        !(padded.length = length && padded.eraseDups.length ≤ 1) then
      throw ("when translating with complemented character classes,\n" ++
        "string2 must map all characters in the domain to one")
    else if isComplement then return outside.zip padded
    else if properties.isEmpty then return first.bytes.zip padded
    else
      match second.getLast?.map ListPart.bytes |>.bind List.getLast? with
      | some last =>
        let rest := if isShort then (first.bytes.drop bytes.length).map fun b => (b, last) else []
        return paired ++ rest
      | none => return paired

/-- What is done to a text. -/
def translation (o : Options) (first : CharList) (second : Option CharList) :
    Except String (List UInt8 → List UInt8) := do
  let isComplement := o.has "c" || o.has "C"
  let set := if isComplement then allBytes.filter (· ∉ first.bytes) else first.bytes
  let opens (l : CharList) : Nat := (l.filter ListPart.isOpen).length
  if 0 < opens first then throw "the [c*] repeat construct may not appear in string1"
  else
    match second, o.has "d" with
    | none, true => return List.filter (· ∉ set)
    | none, false => return squeeze set
    | some second, isDeleting =>
      if 1 < opens second then throw "only one [c*] repeat construct may appear in string2"
      else if isDeleting then
        if 0 < opens second then
          throw "the [c*] construct may appear in string2 only when translating"
        else return fun bs => squeeze second.bytes (bs.filter (· ∉ set))
      else
        let pairs := (← replacement isComplement (o.has "t") first second).reverse
        let table := allBytes.map fun b => (pairs.lookup b).getD b
        let replace (bs : List UInt8) : List UInt8 :=
          let table := table.toArray
          bs.map fun b => (table[b.toNat]?).getD b
        if o.has "s" then return fun bs => squeeze (second.fill set.length).bytes (replace bs)
        else return replace

/-- Replaces, deletes or squeezes characters of the input. -/
def tr : Tool := fun s =>
  let table : OptionTable :=
    { letters := "AcCdst"
      names := [("complement", .nothing, "c"), ("delete", .nothing, "d"),
        ("squeeze-repeats", .nothing, "s"), ("truncate-set1", .nothing, "t")]
      endsAtWord := true
      usage := "[OPTION]... STRING1 [STRING2]" }
  s.withOptions table 1 fun o =>
    let least := if o.has "d" = o.has "s" then 2 else 1
    let most := if o.has "d" && !o.has "s" then 1 else 2
    match o.words with
    | [] => s.misuse 1 "missing operand"
    | word :: words =>
      if words.length + 1 < least then
        s.misuse 1 ("missing operand after " ++ Quoting.word word ++
          "\nTwo strings must be given when " ++
          (if o.has "s" then "both deleting and squeezing repeats." else "translating."))
      else if most < words.length + 1 then
        s.misuse 1 ("extra operand " ++ Quoting.word (((word :: words)[most]?).getD "") ++
          if words.length = 1 then
            "\nOnly one string may be given when deleting without squeezing repeats."
          else "")
      else
        let chars (word : String) : List ListChar × List String :=
          readEscapes (word.length + 1) (Text.Octets.toBytes word)
        let read := (word :: words).map chars
        let p := (read.flatMap Prod.snd).foldl (fun p text => p.complain s 0 text)
          (Progress.start s)
        let lists := read.mapM fun x => ListChar.parts (x.1.length + 1) x.1
        let plan := lists.bind fun lists => translation o (lists.headD []) lists[1]?
        match plan, s.input with
        | .error e, _ => (p.complain s 1 e).ending
        | .ok _, .error e => (p.complain s 1 ("read error: " ++ e.reason)).ending
        | .ok change, .ok input => { p.write 1 (change input) with consumed := input.length }.ending

end Gutter.Shell.Tool
