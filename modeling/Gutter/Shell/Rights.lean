/-!
# Rights to files

The rights to a file are twelve bits: three for the owner, three for the group, three for the others,
and three special ones above them. A change of rights is written as an octal number or as clauses
such as `u+x`.
-/

namespace Gutter.Shell

/-- Where the rights come from that a clause gives. -/
inductive RightsSource where
  | bits (value : Nat) (wantsRun : Bool)
  | copy (of : Nat)
  deriving DecidableEq, Repr

/-- A part of a change of rights. -/
structure RightsClause where
  affected : Nat
  operator : Char
  source : RightsSource
  deriving DecidableEq, Repr

abbrev RightsChange := List RightsClause

namespace RightsChange

def allBits : Nat := 0o7777

def octal (ds : List Char) : Nat := ds.foldl (fun n c => n * 8 + (c.toNat - '0'.toNat)) 0

def isOctal (c : Char) : Bool := '0' ≤ c && c ≤ '7'

def bitsOf? (c : Char) : Option Nat :=
  [('u', 0o4700), ('g', 0o2070), ('o', 0o1007), ('a', 0o7777)].lookup c

def rightsOf? (c : Char) : Option Nat :=
  [('r', 0o444), ('w', 0o222), ('x', 0o111), ('X', 0), ('s', 0o6000), ('t', 0o1000)].lookup c

def union (bits : List Nat) : Nat := bits.foldl (· ||| ·) 0

def isOperator (c : Char) : Bool := c ∈ ['=', '+', '-']

/-- The operators and rights of a clause, and what follows them. -/
def readActions (affected : Nat) : (fuel : Nat) → List Char →
    Option (List RightsClause × List Char)
  | 0, _ => none
  | _, [] => none
  | fuel + 1, operator :: cs =>
    if !isOperator operator then none
    else do
      let ds := cs.takeWhile isOctal
      let letters := cs.takeWhile fun c => (rightsOf? c).isSome
      let whole (affected : Nat) (source : RightsSource) (rest : List Char) :
          Option (List RightsClause × List Char) :=
        let clause : RightsClause := ⟨affected, operator, source⟩
        if rest.head?.any isOperator then
          (readActions affected fuel rest).map fun x => (clause :: x.1, x.2)
        else some ([clause], rest)
      match cs with
      | 'u' :: rest => whole affected (.copy 0o700) rest
      | 'g' :: rest => whole affected (.copy 0o070) rest
      | 'o' :: rest => whole affected (.copy 0o007) rest
      | cs =>
        if ds.isEmpty then
          whole affected (.bits (union (letters.filterMap rightsOf?)) ('X' ∈ letters))
            (cs.drop letters.length)
        else
          let rest := cs.drop ds.length
          if affected ≠ 0 || allBits < octal ds || rest.head?.any (· ≠ ',') then none
          else some ([⟨allBits, operator, .bits (octal ds) false⟩], rest)

def readClauses : (fuel : Nat) → List Char → Option RightsChange
  | 0, _ => none
  | fuel + 1, cs => do
    let people := cs.takeWhile fun c => (bitsOf? c).isSome
    let (clauses, rest) ←
      readActions (union (people.filterMap bitsOf?)) fuel (cs.drop people.length)
    match rest with
    | [] => some clauses
    | ',' :: rest => (readClauses fuel rest).map (clauses ++ ·)
    | _ => none

def ofText? (text : String) : Option RightsChange :=
  let cs := text.toList
  if cs.head?.any isOctal then
    if cs.all isOctal && octal cs ≤ allBits then
      some [⟨allBits, '=', .bits (octal cs) false⟩]
    else none
  else readClauses (cs.length + 2) cs

/-- The rights that a clause makes of some. -/
def step (isDirectory : Bool) (mask : Nat) (mode : Nat) (clause : RightsClause) : Nat :=
  let value := match clause.source with
    | .bits value wantsRun =>
      if wantsRun && (isDirectory || mode &&& 0o111 ≠ 0) then value ||| 0o111 else value
    | .copy bits =>
      let has (right : Nat) : Bool := mode &&& bits &&& right ≠ 0
      union ([0o444, 0o222, 0o111].filter has)
  let open_ := if clause.affected = 0 then allBits - mask % 0o1000 else clause.affected
  let value := value &&& open_
  match clause.operator with
  | '+' => mode ||| value
  | '-' => mode &&& (allBits ^^^ value)
  | _ =>
    (mode &&& (if clause.affected = 0 then 0 else allBits ^^^ clause.affected)) ||| value

def apply (isDirectory : Bool) (mask : Nat) (change : RightsChange) (mode : Nat) : Nat :=
  change.foldl (step isDirectory mask) mode

end RightsChange

def rightsText (mode : Nat) : String :=
  let has (bits : Nat) : Bool := mode &&& bits ≠ 0
  let run (bits special : Nat) (both only : Char) : Char :=
    if has special then (if has bits then both else only) else if has bits then 'x' else '-'
  let plain (bits : Nat) (c : Char) : Char := if has bits then c else '-'
  String.ofList [plain 0o400 'r', plain 0o200 'w', run 0o100 0o4000 's' 'S',
    plain 0o040 'r', plain 0o020 'w', run 0o010 0o2000 's' 'S',
    plain 0o004 'r', plain 0o002 'w', run 0o001 0o1000 't' 'T']

def rightsDigits (mode : Nat) : String :=
  String.ofList ([3, 2, 1, 0].map fun place => Nat.digitChar (mode / Nat.pow 8 place % 8))

end Gutter.Shell
