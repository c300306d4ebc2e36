import Gutter.Toml.Lexeme

/-!
# TOML documents

A document is a sequence of lines, each of which is blank, gives a key a value, or heads a table.
-/

namespace Gutter.Toml

mutual

/-- The value that starts here, with `depth` brackets left that may be opened. -/
def scanValue : (fuel depth : Nat) → List Char → Option (Parsed Value)
  | 0, _, _ => none
  | fuel + 1, depth, cs =>
    match cs with
    | '"' :: _ | '\'' :: _ => (scanString cs).map fun x => (.string x.1, x.2)
    | '[' :: rest => do
      guard (depth ≠ 0)
      let (items, rest) ← scanItems fuel (depth - 1) rest
      return (.list false items, rest)
    | '{' :: rest => do
      guard (depth ≠ 0)
      let (members, rest) ← scanMembers fuel (depth - 1) [] rest
      return (.table .closed members, rest)
    | cs => scanWord cs

/-- The rest of a list, up to its closing bracket. A comma may stand before the bracket. -/
def scanItems : (fuel depth : Nat) → List Char → Option (Parsed (List Value))
  | 0, _, _ => none
  | fuel + 1, depth, cs =>
    match skipGap cs with
    | ']' :: rest => some ([], rest)
    | cs => do
      let (item, rest) ← scanValue fuel depth cs
      match skipGap rest with
      | ',' :: rest => do
        let (items, rest) ← scanItems fuel depth rest
        return (item :: items, rest)
      | ']' :: rest => return ([item], rest)
      | _ => none

/-- The rest of a table between braces, of which some members are read. A comma may stand before
the closing brace, and the lines may be broken around keys and values. -/
def scanMembers : (fuel depth : Nat) → Members → List Char → Option (Parsed Members)
  | 0, _, _, _ => none
  | fuel + 1, depth, ms, cs =>
    match skipGap cs with
    | '}' :: rest => some (ms, rest)
    | cs => do
      let ((path, key), rest) ← scanKey cs
      let (value, rest) ← scanValue fuel depth (skipGap (← expect '=' (skipGap rest)))
      let (_, ms) ← define path key value .header ms
      match skipGap rest with
      | ',' :: rest => scanMembers fuel depth ms rest
      | '}' :: rest => return (ms, rest)
      | _ => none

end

/-- A line that says something. -/
inductive Line where
  | value (path : List String) (key : String) (value : Value)
  | header (path : List String) (key : String)
  | listHeader (path : List String) (key : String)

/-- The line that starts here, after blanks. Each step of reading a value takes a character away. -/
def scanLine? (cs : List Char) : Option (Parsed Line) := do
  match cs with
  | '[' :: '[' :: rest =>
    let ((path, key), rest) ← scanKey rest
    let rest ← expect ']' rest
    let rest ← expect ']' rest
    return (.listHeader path key, rest)
  | '[' :: rest =>
    let ((path, key), rest) ← scanKey rest
    let rest ← expect ']' rest
    return (.header path key, rest)
  | cs =>
    let ((path, key), rest) ← scanKey cs
    let rest := skipBlanks (← expect '=' rest)
    let (value, rest) ← scanValue (2 * rest.length + 2) depthLimit rest
    return (.value path key value, rest)

/-- The lines of a text. -/
def scanLines : (fuel : Nat) → List Char → Option (List Line)
  | 0, _ => none
  | fuel + 1, cs =>
    match skipGap cs with
    | [] => some []
    | cs => do
      let (line, rest) ← scanLine? cs
      match skipComment rest with
      | [] => return [line]
      | rest => do return line :: (← scanLines fuel (← lineBreak? rest))

/-- The root table after some lines, of which the last header has named the table at `current`. -/
def build : (current : List String) → Members → List Line → Option Members
  | _, root, [] => some root
  | current, root, .value path key value :: lines => do
    let (_, root) ← changeAt false (define path key value) current .header root
    build current root lines
  | _, root, .header path key :: lines => do
    let (_, root) ← openTable path key .header root
    build (path ++ [key]) root lines
  | _, root, .listHeader path key :: lines => do
    let (_, root) ← appendTable path key .header root
    build (path ++ [key]) root lines

/-- The root table of a TOML text. A mark of the byte order may stand in front of the text. -/
def ofText? (text : String) : Option Members := do
  let cs := match text.toList with
    | '\uFEFF' :: cs => cs
    | cs => cs
  build [] [] (← scanLines (cs.length + 1) cs)

end Gutter.Toml
