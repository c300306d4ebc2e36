/-!
# Text as bytes

A text is written as the bytes of its UTF-8 form. Reading bytes back either refuses what is not
UTF-8 (`decode?`) or replaces each part that cannot continue a character (`decodeLossy`).
-/

namespace Gutter.Text.Utf8

def encode (s : String) : List UInt8 :=
  s.toByteArray.data.toList

def decode? (bytes : List UInt8) : Option String :=
  String.fromUTF8? ⟨bytes.toArray⟩

/-- Reading the UTF-8 form of a text gives the text. -/
theorem decode?_encode (s : String) : decode? (encode s) = some s := by
  have h : (⟨(encode s).toArray⟩ : ByteArray) = s.toByteArray := by simp [encode]
  rw [decode?, h, String.fromUTF8?, dif_pos s.isValidUTF8]
  rfl

/-! ## Replacing what is not UTF-8 -/

/-- How a character starts: it is complete, it is `more` bytes longer and the next of them lies
between `low` and `high`, or no character starts like this. -/
inductive Lead where
  | complete
  | unfinished (more : Nat) (low high : UInt8)
  | stray

/-- What the first byte of a character says about the rest of it. -/
def lead (b : UInt8) : Lead :=
  if b ≤ 0x7F then .complete
  else if b < 0xC2 then .stray
  else if b ≤ 0xDF then .unfinished 1 0x80 0xBF
  else if b == 0xE0 then .unfinished 2 0xA0 0xBF
  else if b == 0xED then .unfinished 2 0x80 0x9F
  else if b ≤ 0xEF then .unfinished 2 0x80 0xBF
  else if b == 0xF0 then .unfinished 3 0x90 0xBF
  else if b ≤ 0xF3 then .unfinished 3 0x80 0xBF
  else if b == 0xF4 then .unfinished 3 0x80 0x8F
  else .stray

/-- The longest run of bytes, at most `more` of them, that continues a character: the first lies
between `low` and `high`, the others are continuation bytes. -/
def continuation : Nat → UInt8 → UInt8 → List UInt8 → List UInt8
  | more + 1, low, high, b :: rest =>
    if low ≤ b && b ≤ high then b :: continuation more 0x80 0xBF rest else []
  | _, _, _, _ => []

/-- The character whose first byte is `b` and whose further bytes are `tail`. -/
def assemble (b : UInt8) (tail : List UInt8) : Char :=
  let head := match tail.length with
    | 0 => b.toNat
    | 1 => b.toNat % 0x20
    | 2 => b.toNat % 0x10
    | _ => b.toNat % 0x08
  Char.ofNat (tail.foldl (fun n t => n * 0x40 + t.toNat % 0x40) head)

/-- The characters of a byte sequence, where each maximal part that starts a character but does not
finish it, and each byte that starts none, becomes U+FFFD. `skip` bytes at the front belong to a
character that is already read. -/
def charsLossy : (skip : Nat) → List UInt8 → List Char
  | _, [] => []
  | skip + 1, _ :: rest => charsLossy skip rest
  | 0, b :: rest =>
    match lead b with
    | .complete => assemble b [] :: charsLossy 0 rest
    | .stray => '\uFFFD' :: charsLossy 0 rest
    | .unfinished more low high =>
      let tail := continuation more low high rest
      let c := if tail.length == more then assemble b tail else '\uFFFD'
      c :: charsLossy tail.length rest

def decodeLossy (bytes : List UInt8) : String :=
  match decode? bytes with
  | some s => s
  | none => String.ofList (charsLossy 0 bytes)

theorem decodeLossy_encode (s : String) : decodeLossy (encode s) = s := by
  simp [decodeLossy, decode?_encode]

end Gutter.Text.Utf8
