import Docket.Error
import Docket.Number.Numeral
import Docket.Text.Lines

/-!
# Paths

A path is a reference to data: where it starts, and the steps down from there.

## Writing

`Path.canonical` is the key under which bound values are indexed, `Path.display` what messages show.

## Reading

`Path.parse?` reads `a.b`, `a[0].b` and `this.x`. Steps are separated by points; a step is a name, a
number, or either with positions in brackets behind it. A step that consists of ASCII digits is a
position, so `items.0` and `items[0]` are the same path.
-/

namespace Docket

/-- One step down. -/
inductive Segment where
  | key (name : String)
  | index (position : Nat)
deriving DecidableEq, Repr

/-- Where a path starts: in the enclosing loops and the context, at the current loop element, or at
one of the three facts about the current round of a loop. -/
inductive Scope where
  | root
  | this
  | index
  | first
  | last
deriving DecidableEq, Repr

/-- A reference to data. -/
structure Path where
  scope : Scope
  segments : List Segment
deriving DecidableEq, Repr

namespace Path

/-! ## Writing -/

/-- A position in brackets. -/
def bracketed (position : Nat) : List Char := '[' :: (Numeral.digitsOf position ++ [']'])

/-- A step as it is written after another one. -/
def stepChars : Segment → List Char
  | .key name => '.' :: name.toList
  | .index position => bracketed position

/-- Steps as they are written from the start: a leading name has no point before it. -/
def canonicalChars : List Segment → List Char
  | .key name :: rest => name.toList ++ rest.flatMap stepChars
  | segments => segments.flatMap stepChars

/-- The index key of a path: names joined by points, positions in brackets. -/
def canonical (p : Path) : String := String.ofList (canonicalChars p.segments)

/-- A path as messages show it. -/
def display (p : Path) : String :=
  match p.scope with
  | .root => p.canonical
  | .this => if p.segments.isEmpty then "this" else "this." ++ p.canonical
  | .index => "@index"
  | .first => "@first"
  | .last => "@last"

/-- The first step, if it is a name. -/
def firstName? (p : Path) : Option String :=
  match p.segments with
  | .key name :: _ => some name
  | _ => none

/-! ## Reading -/

/-- Characters of a name: letters and digits of any script, `_` and `-`. -/
def isNameChar (c : Char) : Bool := Text.isAlphanumeric c || c = '_' || c = '-'

/-- The step that a text without brackets stands for; none for the empty text. -/
def nameStep? (name : List Char) : Option Segment :=
  if name.isEmpty then none
  else if name.all Numeral.isDigit then (Numeral.unsigned? name).map .index
  else if name.all isNameChar then some (.key (String.ofList name))
  else none

/-- The position in a piece that starts with an opening bracket. -/
def position? : List Char → Option Segment
  | '[' :: digits => (Numeral.unsigned? digits).map .index
  | _ => none

/-- The positions in a run of brackets: cut at the closing brackets, the run leaves one opened piece
for each position and nothing behind the last. -/
def positions? (run : List Char) : Option (List Segment) :=
  if run.isEmpty then some []
  else
    match (Text.splitAll (· == ']') run).reverse with
    | [] :: opened => opened.reverse.mapM position?
    | _ => none

/-- The steps of one part between points. Only a part with positions may lack its name, and only
after another part. -/
def partSteps? (isFirst : Bool) (part : List Char) : Option (List Segment) :=
  let name := part.takeWhile (· ≠ '[')
  let run := part.dropWhile (· ≠ '[')
  if name.isEmpty then
    if isFirst || run.isEmpty then none else positions? run
  else
    (nameStep? name).bind fun step => (positions? run).map (step :: ·)

/-- The steps of all parts. -/
def steps? : (isFirst : Bool) → List (List Char) → Option (List Segment)
  | _, [] => some []
  | isFirst, part :: rest =>
    (partSteps? isFirst part).bind fun steps => (steps? false rest).map (steps ++ ·)

/-- The path that a trimmed text denotes. A leading name `this` is not a step but the scope. -/
def ofChars? (cs : List Char) : Option Path :=
  if cs = ['@', 'i', 'n', 'd', 'e', 'x'] then some ⟨.index, []⟩
  else if cs = ['@', 'f', 'i', 'r', 's', 't'] then some ⟨.first, []⟩
  else if cs = ['@', 'l', 'a', 's', 't'] then some ⟨.last, []⟩
  else
    (steps? true (Text.splitAll (· == '.') cs)).map fun steps =>
      match steps with
      | .key name :: rest => if name = "this" then ⟨.this, rest⟩ else ⟨.root, steps⟩
      | _ => ⟨.root, steps⟩

/-- The path that a text denotes, white space around it aside. -/
def parse? (raw : String) : Option Path := ofChars? (Text.trim raw.toList)

/-- The path that a text denotes, or the error that shows the text without the white space around
it. -/
def parse (raw : String) : Except Error Path :=
  match parse? raw with
  | some p => .ok p
  | none => .error (.invalidExpression (Text.trimmed raw))

end Path

end Docket
