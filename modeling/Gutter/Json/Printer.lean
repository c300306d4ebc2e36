import Gutter.Json.Value

/-!
# Writing JSON

A value is written without gaps. In strings the quote, the backslash and the control characters
below the space are escaped, and nothing else.
-/

namespace Gutter.Json

/-- The letter that stands for a character after a backslash. -/
def escapeLetter? : Char → Option Char
  | '"' => some '"'
  | '\\' => some '\\'
  | '\x08' => some 'b'
  | '\x0c' => some 'f'
  | '\n' => some 'n'
  | '\r' => some 'r'
  | '\t' => some 't'
  | _ => none

/-- A character inside a string. -/
def writeChar (c : Char) : List Char :=
  match escapeLetter? c with
  | some l => ['\\', l]
  | none =>
    if c.toNat < 0x20 then
      ['\\', 'u', '0', '0', Nat.digitChar (c.toNat / 16), Nat.digitChar (c.toNat % 16)]
    else [c]

def writeString (s : String) : List Char :=
  '"' :: s.toList.flatMap writeChar ++ ['"']

def Number.write : Number → List Char
  | .integer n => (toString n).toList
  | .float x => (Decimal.plain.text x).toList

namespace Value

mutual

/-- The characters of a value. -/
def write : Value → List Char
  | .null => ['n', 'u', 'l', 'l']
  | .boolean true => ['t', 'r', 'u', 'e']
  | .boolean false => ['f', 'a', 'l', 's', 'e']
  | .number n => n.write
  | .string s => writeString s
  | .list [] => ['[', ']']
  | .list (v :: vs) => '[' :: v.write ++ writeItems vs
  | .object [] => ['\x7b', '\x7d']
  | .object ((k, v) :: ms) => '\x7b' :: writeString k ++ ':' :: v.write ++ writeMembers ms

def writeItems : List Value → List Char
  | [] => [']']
  | v :: vs => ',' :: v.write ++ writeItems vs

def writeMembers : List (String × Value) → List Char
  | [] => ['\x7d']
  | (k, v) :: ms => ',' :: writeString k ++ ':' :: v.write ++ writeMembers ms

end

def text (v : Value) : String := String.ofList v.write

def natural (n : Nat) : Value := .number (.integer n)

def texts (xs : List String) : Value := .list (xs.map .string)

def optional (v : Option Value) : Value := v.getD .null

end Value

end Gutter.Json
