import Docket.Path.Walk
import Docket.Request
import Docket.Schema

/-!
# Bindings

Binding a context lays all its values out in one index, keyed by canonical path, and fills the gaps
with the defaults of a schema.

## The index

`Bindings.flatten` lists the values at and below a place, children before their parent. Of two
values with the same key the first one counts.

## Missing data

`Bindings.noticeOf` decides what a reference without value comes to, `Bindings.requiredWarnings`
looks for required variables without value.
-/

namespace Docket

/-- A context bound to a schema. -/
structure Bindings where
  /-- Values by canonical path; the first entry of a key counts. -/
  index : List (String × Value)
  /-- The declared variables by canonical path, with whether they are required. -/
  declared : List (String × Bool)
  strictness : Strictness
deriving Inhabited

namespace Bindings

/-! ## The index -/

/-- The position that a map key stands for, if it consists of digits and is not too large. -/
def positionKey? (key : String) : Option Nat :=
  let cs := key.toList
  if cs.all Numeral.isDigit then Numeral.unsigned? cs else none

/-- The place of an entry of the map at `place`. -/
def entryPlace (place : List Char) (key : String) : List Char :=
  match positionKey? key with
  | some position => place ++ Path.bracketed position
  | none => if place.isEmpty then key.toList else place ++ '.' :: key.toList

mutual

/-- The values at and below a place, children before their parent. The top has no key of its own. -/
def flatten (place : List Char) (v : Value) : List (String × Value) :=
  let own := if place.isEmpty then [] else [(String.ofList place, v)]
  match v with
  | .map entries => flattenEntries place entries ++ own
  | .list items => flattenItems place 0 items ++ own
  | _ => own

/-- The values at and below the entries of the map at a place. -/
def flattenEntries (place : List Char) : List (String × Value) → List (String × Value)
  | [] => []
  | (k, v) :: rest => flatten (entryPlace place k) v ++ flattenEntries place rest

/-- The values at and below the items of the list at a place, counted from `position`. -/
def flattenItems (place : List Char) (position : Nat) : List Value → List (String × Value)
  | [] => []
  | v :: rest =>
    flatten (place ++ Path.bracketed position) v ++ flattenItems place (position + 1) rest

end

/-- The canonical path of a declared variable; a name that is no path stands for itself. -/
def canonicalName (name : String) : String :=
  match Path.parse? name with
  | some p => p.canonical
  | none => name

/-- Adds the default of a declared variable unless its path has a value already. -/
def addDefault (index : List (String × Value)) (name : String) (declaration : Declaration) :
    List (String × Value) :=
  let key := canonicalName name
  match declaration.default with
  | some v => if (Value.lookup key index).isSome then index else index ++ flatten key.toList v
  | none => index

/-- Binds a context to a schema. -/
def bind (context : Value) (schema : Schema) (strictness : Strictness) : Bindings where
  index :=
    schema.foldl (fun index (name, declaration) => addDefault index name declaration)
      (flatten [] context)
  declared := schema.map fun (name, declaration) => (canonicalName name, declaration.isRequired)
  strictness := strictness

/-- The value under an index key. -/
def get? (b : Bindings) (key : String) : Option Value := Value.lookup key b.index

/-- The value of a path, seen from the root. -/
def lookup? (b : Bindings) (p : Path) : Option Value := b.get? p.canonical

/-! ## Missing data -/

/-- Whether a path, or the variable it starts with, is declared and not required. -/
def mayBeAbsent (b : Bindings) (p : Path) : Bool :=
  b.declared.any fun (name, required) =>
    !required && (name == p.canonical || some name == p.firstName?)

/-- What a reference without value comes to: nothing if it is optional, otherwise a warning or,
under strictness, an error. -/
def noticeOf (b : Bindings) (p : Path) : Except Error (Option String) :=
  if b.mayBeAbsent p then .ok none
  else
    match b.strictness with
    | .strict => .error (.unresolved p.display)
    | .lenient => .ok (some ("Unresolved variable '" ++ p.display ++ "' rendered as empty"))

/-- The required variables without value, in the order of the schema. -/
def missingRequired (b : Bindings) : List String :=
  (b.declared.filter fun (name, required) => required && (b.get? name).isNone).map (·.1)

/-- One warning for each required variable without value; under strictness the first is an error. -/
def requiredWarnings (b : Bindings) : Except Error (List String) :=
  match b.strictness, b.missingRequired with
  | .strict, name :: _ => .error (.unresolved name)
  | .strict, [] => .ok []
  | .lenient, names => .ok (names.map fun name => "Required variable '" ++ name ++ "' is missing")

end Bindings

end Docket
