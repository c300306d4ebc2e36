/-!
# Substitution in a text

Every occurrence of a pattern, found from left to right and without overlap, is replaced.
-/

namespace Gutter.Text

/-- The text with each occurrence of `pattern` replaced by `value`; the first `skip` characters
belong to an occurrence that is already replaced. -/
def substituteChars (pattern value : List Char) : (skip : Nat) → List Char → List Char
  | _, [] => []
  | skip + 1, _ :: rest => substituteChars pattern value skip rest
  | 0, c :: rest =>
    if pattern.isPrefixOf (c :: rest) then
      value ++ substituteChars pattern value (pattern.length - 1) rest
    else c :: substituteChars pattern value 0 rest

def substitute (pattern value text : String) : String :=
  String.ofList (substituteChars pattern.toList value.toList 0 text.toList)

end Gutter.Text
