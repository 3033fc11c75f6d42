import Docket.Text.Lines

/-!
# Locations

A location says where a file is: names with slashes between them. This module is about the text
alone and asks nothing of the disk.

## Steps

Empty pieces and single points do not count, so `a//b/./c/` has the steps of `a/b/c`. A slash at the
start counts, and so does a single point at the start.

## Parts

`relativeTo` cuts off a leading location step by step, `extension?` is what follows the last point
of the last name, `join` and `parent?` go down and up.
-/

namespace Docket.Location

/-! ## Steps -/

/-- One step of a location. Steps are in increasing order as the constructors are written; names are
in order among themselves. -/
inductive Step where
  | top
  | here
  | up
  | name (s : String)
deriving DecidableEq, Repr

/-- The step that a piece between slashes stands for; empty pieces and points stand for none. -/
def step? (piece : List Char) : Option Step :=
  if piece = [] ∨ piece = ['.'] then none
  else if piece = ['.', '.'] then some .up
  else some (.name (String.ofList piece))

/-- The step that the first piece stands for. -/
def firstStep? (isAbsolute : Bool) (piece : List Char) : Option Step :=
  if isAbsolute then some .top
  else if piece = ['.'] then some .here
  else step? piece

/-- Whether a location starts at the top. -/
def isAbsolute (location : List Char) : Bool := location.head? = some '/'

/-- The pieces of a location, each with the step it stands for. -/
def pieces (location : List Char) : List (List Char × Option Step) :=
  match Text.splitAll (· == '/') location with
  | [] => []
  | first :: rest =>
    (first, firstStep? (isAbsolute location) first) :: rest.map fun p => (p, step? p)

/-- The steps of a location. -/
def steps (location : String) : List Step := (pieces location.toList).filterMap (·.2)

/-- Whether one step comes before another. -/
def Step.before : Step → Step → Bool
  | .top, b => b ≠ .top
  | .here, .top => false
  | .here, b => b ≠ .here
  | .up, .name _ => true
  | .name a, .name b => a < b
  | _, _ => false

/-- The order of lists of steps: the first difference decides, a shorter list comes first. -/
def stepsBefore : List Step → List Step → Bool
  | [], b => !b.isEmpty
  | _ :: _, [] => false
  | a :: as, b :: bs => if a = b then stepsBefore as bs else a.before b

/-- The order of locations. -/
def before (a b : String) : Bool := stepsBefore (steps a) (steps b)

/-! ## Parts -/

/-- Pieces with slashes between them. -/
def glue (ps : List (List Char × Option Step)) : String :=
  if ps.map (·.2) = [some .top] then "/"
  else String.ofList (List.intercalate ['/'] (ps.map (·.1)))

/-- Pieces without those at the end that stand for no step. -/
def trimmed (ps : List (List Char × Option Step)) : List (List Char × Option Step) :=
  (ps.reverse.dropWhile fun p => p.2.isNone).reverse

/-- What is left of pieces that start with given steps. -/
def dropSteps? :
    List Step → List (List Char × Option Step) → Option (List (List Char × Option Step))
  | [], ps => some ps
  | _ :: _, [] => none
  | s :: ss, (_, none) :: ps => dropSteps? (s :: ss) ps
  | s :: ss, (_, some t) :: ps => if s = t then dropSteps? ss ps else none

/-- A location seen from another one above it. A location that is not below that one is left as it
is; the rest keeps its own spelling. -/
def relativeTo (location root : String) : String :=
  let above := steps root
  match dropSteps? above (pieces location.toList) with
  | none => location
  | some rest =>
    glue (trimmed (if above.isEmpty then rest else rest.dropWhile fun p => p.2.isNone))

/-- The last name of a location, if its last step is a name. -/
def lastName? (location : String) : Option String :=
  match (steps location).getLast? with
  | some (.name s) => some s
  | _ => none

/-- What follows the last point of the last name. A name without a point, or with its only point in
front, has no extension. -/
def extension? (location : String) : Option String :=
  (lastName? location).bind fun name =>
    let reversed := name.toList.reverse
    let ending := reversed.takeWhile (· ≠ '.')
    match reversed.drop ending.length with
    | [] | [_] => none
    | _ => some (String.ofList ending.reverse)

/-- An ASCII letter in lower case, and every other character as it is. -/
def asciiLower (c : Char) : Char := c.toLower

/-- Whether a location has one of some extensions, whatever the case of ASCII letters. -/
def hasExtension (location : String) (extensions : List String) : Bool :=
  match extension? location with
  | none => false
  | some e =>
    extensions.any fun x => x.toList.map asciiLower = e.toList.map asciiLower

/-- A location below another one. -/
def join (location below : String) : String :=
  if isAbsolute below.toList then below
  else if location.isEmpty || location.toList.getLast? = some '/' then location ++ below
  else location ++ "/" ++ below

/-- The location one step above; the top and the empty location have none. -/
def parent? (location : String) : Option String :=
  match (pieces location.toList).reverse.dropWhile fun p => p.2.isNone with
  | [] | (_, some .top) :: _ => none
  | _ :: above => some (glue (trimmed above.reverse))

end Docket.Location
