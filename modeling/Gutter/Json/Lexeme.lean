import Gutter.Json.Error
import Gutter.Text.Utf8

/-!
# Words, numbers and strings of a JSON text

The smallest parts of a JSON text, byte by byte. Each part can be looked at in two ways: reading it
gives its value, skimming it only checks its grammar. Skimming is the more lenient of the two: it
accepts unpaired surrogates, numbers of any size and strings that are not UTF-8.
-/

namespace Gutter.Json

def isGap (b : UInt8) : Bool := b = 0x20 || b = 0x0A || b = 0x09 || b = 0x0D

def skipGap (bytes : List UInt8) : List UInt8 := bytes.dropWhile isGap

/-- What one look at a part of a text gives: the value that stands there or the fault, and the text
after it, which skimming may reach where reading does not. -/
structure Part (α : Type) where
  value : Except Fault α
  rest : Except Fault (List UInt8)

/-! ## Words -/

/-- The words of the grammar. -/
inductive Word where
  | null
  | boolean (b : Bool)
  deriving DecidableEq, Repr

def expect : List UInt8 → List UInt8 → Except Fault (List UInt8)
  | [], rest => .ok rest
  | _ :: _, [] => .error .endInValue
  | w :: ws, b :: rest => if w = b then expect ws rest else .error .badWord

def Word.scan (word : Word) (letters : List UInt8) (bytes : List UInt8) : Part Word :=
  let rest := expect letters bytes
  ⟨rest.map fun _ => word, rest⟩

/-! ## Numbers -/

def isDigit (b : UInt8) : Bool := 0x30 ≤ b && b ≤ 0x39

def digit (b : UInt8) : Nat := b.toNat - 0x30

/-- The parts of a number as they are written: the digits before the point, those after it, and the
exponent with its sign. -/
structure Numeral where
  negative : Bool
  whole : List UInt8
  fraction : Option (List UInt8)
  exponent : Option (Bool × List UInt8)
  deriving DecidableEq, Repr

namespace Numeral

def push? (n : Nat) (b : UInt8) : Option Nat :=
  if n * 10 + digit b < UInt64.size then some (n * 10 + digit b) else none

/-- A number with further digits, as many of them as fit below `2 ^ 64`, and how many do not. -/
def accumulate : Nat → List UInt8 → Nat × Nat
  | n, [] => (n, 0)
  | n, b :: rest =>
    match push? n b with
    | some m => accumulate m rest
    | none => (n, rest.length + 1)

def ofDigits (ds : List UInt8) : Nat := ds.foldl (fun n b => n * 10 + digit b) 0

def float (negative : Bool) (n : Nat) (k : Int) : Except Fault Number :=
  match Binary64.ofDecimal? negative n k with
  | some x => .ok (.float x)
  | none => .error .numberOutOfRange

/-- The value of a number. A number without point and exponent is an integer if it fits 64 bits,
with a sign if it is negative; of other numbers only the first digits that fit 64 bits count. -/
def value (x : Numeral) : Except Fault Number :=
  let (n, dropped) := accumulate 0 x.whole
  match x.fraction, x.exponent with
  | none, none =>
    if dropped ≠ 0 then float x.negative n dropped
    else if !x.negative then .ok (.integer n)
    else if n = 0 || Nat.pow 2 63 < n then float true n 0
    else .ok (.integer (-n))
  | fraction, exponent =>
    let places := fraction.getD []
    let (n, droppedPlaces) := accumulate n places
    let k : Int := dropped - ((places.length : Int) - droppedPlaces)
    match exponent with
    | none => float x.negative n k
    | some (negativeExponent, ds) =>
      let e := ofDigits ds
      if Nat.pow 2 31 ≤ e then
        if n ≠ 0 && !negativeExponent then .error .numberOutOfRange
        else float x.negative 0 0
      else float x.negative n (if negativeExponent then k - e else k + e)

/-- The fault of a number that goes on wrongly: it can end too soon when it is read, but is only
malformed when it is skimmed. -/
def malformed {α : Type} (bytes : List UInt8) : Part α :=
  ⟨.error (if bytes.isEmpty then .endInValue else .badNumber), .error .badNumber⟩

def finish (x : Numeral) (rest : List UInt8) : Part Number := ⟨x.value, .ok rest⟩

/-- A number from the exponent on, if there is one. -/
def scanExponent (x : Numeral) (bytes : List UInt8) : Part Number :=
  match bytes with
  | [] => x.finish []
  | b :: rest =>
    if b = 0x65 || b = 0x45 then
      let (negative, rest) := match rest with
        | 0x2B :: r => (false, r)
        | 0x2D :: r => (true, r)
        | r => (false, r)
      let ds := rest.takeWhile isDigit
      if ds.isEmpty then malformed rest
      else { x with exponent := some (negative, ds) }.finish (rest.dropWhile isDigit)
    else x.finish bytes

/-- A number from the point on, if there is one. -/
def scanFraction (x : Numeral) (bytes : List UInt8) : Part Number :=
  match bytes with
  | 0x2E :: rest =>
    let ds := rest.takeWhile isDigit
    if ds.isEmpty then malformed rest
    else { x with fraction := some ds }.scanExponent (rest.dropWhile isDigit)
  | bytes => x.scanExponent bytes

/-- A number after its sign. A zero in front stands alone. -/
def scan (negative : Bool) (bytes : List UInt8) : Part Number :=
  match bytes with
  | [] => malformed []
  | b :: rest =>
    if b = 0x30 then
      match rest with
      | d :: _ => if isDigit d then ⟨.error .badNumber, .error .badNumber⟩
        else scanFraction ⟨negative, [b], none, none⟩ rest
      | [] => scanFraction ⟨negative, [b], none, none⟩ rest
    else if isDigit b then
      scanFraction ⟨negative, b :: rest.takeWhile isDigit, none, none⟩ (rest.dropWhile isDigit)
    else malformed bytes

end Numeral

/-! ## Strings -/

def hexDigit? (b : UInt8) : Option Nat :=
  if 0x30 ≤ b && b ≤ 0x39 then some (b.toNat - 0x30)
  else if 0x61 ≤ b && b ≤ 0x66 then some (b.toNat - 0x61 + 10)
  else if 0x41 ≤ b && b ≤ 0x46 then some (b.toNat - 0x41 + 10)
  else none

/-- The number of four hexadecimal digits. -/
def hex4? (a b c d : UInt8) : Option Nat := do
  let a ← hexDigit? a
  let b ← hexDigit? b
  let c ← hexDigit? c
  let d ← hexDigit? d
  return ((a * 16 + b) * 16 + c) * 16 + d

/-- The byte that a one-letter escape stands for. -/
def escaped? (b : UInt8) : Option UInt8 :=
  if b = 0x22 || b = 0x5C || b = 0x2F then some b
  else if b = 0x62 then some 0x08
  else if b = 0x66 then some 0x0C
  else if b = 0x6E then some 0x0A
  else if b = 0x72 then some 0x0D
  else if b = 0x74 then some 0x09
  else none

def encodePoint (n : Nat) : List UInt8 := String.utf8EncodeChar (Char.ofNat n)

/-- The bytes of the string that starts here, up to its closing quote. `high` is the first half of
a surrogate pair that has just been read. -/
def stringBytes : (high : Option Nat) → List UInt8 → Except Fault (List UInt8)
  | _, [] => .error .endInString
  | some _, [0x5C] => .error .endInString
  | some high, 0x5C :: 0x75 :: a :: b :: c :: d :: rest =>
    match hex4? a b c d with
    | none => .error .badEscape
    | some low =>
      if 0xDC00 ≤ low && low ≤ 0xDFFF then
        (stringBytes none rest).map
          (encodePoint ((high - 0xD800) * 0x400 + (low - 0xDC00) + 0x10000) ++ ·)
      else .error .loneSurrogate
  | some _, 0x5C :: 0x75 :: _ => .error .endInString
  | some _, _ => .error .unfinishedPair
  | none, 0x22 :: _ => .ok []
  | none, [0x5C] => .error .endInString
  | none, 0x5C :: 0x75 :: a :: b :: c :: d :: rest =>
    match hex4? a b c d with
    | none => .error .badEscape
    | some n =>
      if 0xDC00 ≤ n && n ≤ 0xDFFF then .error .loneSurrogate
      else if 0xD800 ≤ n && n ≤ 0xDBFF then stringBytes (some n) rest
      else (stringBytes none rest).map (encodePoint n ++ ·)
  | none, 0x5C :: 0x75 :: _ => .error .endInString
  | none, 0x5C :: e :: rest =>
    match escaped? e with
    | none => .error .badEscape
    | some b => (stringBytes none rest).map (b :: ·)
  | none, b :: rest =>
    if b < 0x20 then .error .controlCharacter
    else (stringBytes none rest).map (b :: ·)

/-- The text after the string that starts here. -/
def skimString : List UInt8 → Except Fault (List UInt8)
  | [] => .error .endInString
  | 0x22 :: rest => .ok rest
  | [0x5C] => .error .endInString
  | 0x5C :: 0x75 :: a :: b :: c :: d :: rest =>
    if (hex4? a b c d).isNone then .error .badEscape else skimString rest
  | 0x5C :: 0x75 :: _ => .error .endInString
  | 0x5C :: e :: rest => if (escaped? e).isNone then .error .badEscape else skimString rest
  | b :: rest => if b < 0x20 then .error .controlCharacter else skimString rest

/-- The string whose opening quote is already read. -/
def scanString (bytes : List UInt8) : Part String :=
  { value := do
      let content ← stringBytes none bytes
      match Text.Utf8.decode? content with
      | some s => .ok s
      | none => .error .notUtf8
    rest := skimString bytes }

end Gutter.Json
