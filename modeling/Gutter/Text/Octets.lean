/-!
# Bytes as text

A shell and its programs work on texts that need not be UTF-8. Such a text is kept as a string in
which each byte is the character with its number.
-/

namespace Gutter.Text.Octets

def ofBytes (bytes : List UInt8) : String :=
  String.ofList (bytes.map fun b => Char.ofNat b.toNat)

def toBytes (s : String) : List UInt8 := s.toList.map fun c => UInt8.ofNat c.toNat

def ofText (s : String) : String := ofBytes s.toUTF8.data.toList

end Gutter.Text.Octets
