import Docket.Value.Basic

/-!
# Schemas

A schema declares variables: whether they are required, which value they take when the context has
none, what they are for. Attributes that are not set stay unset, so that one schema can be laid over
another attribute by attribute.
-/

namespace Docket

/-- What is declared about one variable. -/
structure Declaration where
  required : Option Bool := none
  default : Option Value := none
  description : Option String := none
deriving Inhabited

/-- A variable is required only if its declaration says so. -/
def Declaration.isRequired (v : Declaration) : Bool := v.required.getD false

/-- Declared variables in order, each name once. -/
abbrev Schema := List (String × Declaration)

namespace Schema

/-- Declares a variable: a known name keeps its place and takes the new declaration, a new name goes
to the end. -/
def declare (name : String) (declaration : Declaration) : Schema → Schema
  | [] => [(name, declaration)]
  | (n, below) :: rest =>
    if n = name then (n, declaration) :: rest else (n, below) :: declare name declaration rest

/-- The schema that declares these variables one after another. -/
def ofList (declarations : List (String × Declaration)) : Schema :=
  declarations.foldl (fun schema (name, declaration) => declare name declaration schema) []

/-- The declaration of a variable. -/
def find? (name : String) : Schema → Option Declaration
  | [] => none
  | (n, declaration) :: rest => if n = name then some declaration else find? name rest

end Schema

end Docket
