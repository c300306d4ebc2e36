/-!
# Quotes

How programs write names and words into what they complain about, so that a reader sees where they
start and end. All texts are bytes, each shown as the character with its number.
-/

namespace Gutter.Shell.Quoting

def hidden? (c : Char) : Option (List Char) :=
  let named := [('\x07', 'a'), ('\x08', 'b'), ('\t', 't'), ('\n', 'n'), ('\x0B', 'v'),
    ('\x0C', 'f'), ('\r', 'r')]
  match named.lookup c with
  | some letter => some ['\\', letter]
  | none =>
    if ' ' ≤ c && c ≤ '~' then none
    else
      let digit (n : Nat) : Char := Nat.digitChar (n % 8)
      some ['\\', digit (c.toNat / 64), digit (c.toNat / 8), digit c.toNat]

def word (s : String) : String :=
  let shown (c : Char) : List Char :=
    (hidden? c).getD (if c = '\'' || c = '\\' then ['\\', c] else [c])
  String.ofList ('\'' :: s.toList.flatMap shown ++ ['\''])

/-- The rest of a name within the quotes of a shell. `inEscape` says that it is within quotes in
which backslashes have a meaning. -/
def shellBody : (inEscape : Bool) → List Char → List Char
  | _, [] => []
  | inEscape, c :: cs =>
    match hidden? c with
    | some shown => (if inEscape then [] else ['\'', '$', '\'']) ++ shown ++ shellBody true cs
    | none =>
      if c = '\'' then ['\'', '\\', '\'', '\''] ++ shellBody false cs
      else (if inEscape then ['\'', '\''] else []) ++ c :: shellBody false cs

def isPlain : List Char → Bool
  | [] => true
  | c :: cs =>
    (c ∈ ['#', '~'] || c.isAlphanum || c ∈ " %+,-./:]_'".toList) &&
      cs.all fun c => c.isAlphanum || c ∈ " %+,-./:]_'".toList

/-- A name in quotes, as a shell reads it. If there are single quotes in the name it is gone through
twice, and the second time starts as the first one has ended. -/
def name (s : String) : String :=
  let cs := s.toList
  if '\'' ∉ cs then String.ofList ('\'' :: shellBody false cs ++ ['\''])
  else if isPlain cs then "\"" ++ s ++ "\""
  else
    let endsInEscape := cs.getLast?.any fun c => (hidden? c).isSome
    String.ofList ('\'' :: shellBody endsInEscape cs ++ ['\''])

def isSpecial (cs : List Char) : Bool :=
  cs.isEmpty || cs = ['\x7b'] || cs = ['\x7d'] || cs.head? = some '#' || cs.head? = some '~' ||
    cs.any fun c => (hidden? c).isSome || c ∈ "?\\' !\"$&()*;<=>[^\x60|".toList

def shellName (s : String) : String := if isSpecial s.toList then name s else s

/-- A name in a complaint, in quotes if it needs some. It needs them for a colon too, as colons stand
between the parts of a complaint. -/
def plainName (s : String) : String := if ':' ∈ s.toList then name s else shellName s

end Gutter.Shell.Quoting
