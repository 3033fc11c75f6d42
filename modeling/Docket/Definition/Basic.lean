import Docket.Request
import Docket.Schema

/-!
# Definitions

A definition is what one template file says: a template that can be requested, or a fragment that
other definitions can be based on. Both have sections, a schema of variables, and bases.
-/

namespace Docket

/-- A named block of template text. -/
structure Section where
  name : String
  body : String
deriving DecidableEq, Repr, Inhabited

/-- Under what a definition is known: a template by the key that requests it, a fragment by the name
under which it is inherited. -/
inductive Identity where
  | template (key : TemplateKey)
  | fragment (name : String)
deriving DecidableEq, Repr, Inhabited

/-- An identity as messages show it. -/
def Identity.text : Identity → String
  | .template key => key.text
  | .fragment name => "fragment:" ++ name

/-- What one template file says. -/
structure Definition where
  identity : Identity
  version : String
  description : Option String
  sections : List Section
  schema : Schema
  /-- The names of the fragments this definition is based on, in the order they are laid over one
  another. -/
  bases : List String
  /-- The file it comes from. -/
  source : String
deriving Inhabited

namespace Definition

/-- The identity of a definition with its version. -/
def id (d : Definition) : String :=
  match d.identity with
  | .template key => key.text ++ "@" ++ d.version
  | .fragment name => "fragment:" ++ name ++ "@" ++ d.version

/-- The key under which a template is requested. -/
def key? (d : Definition) : Option TemplateKey :=
  match d.identity with
  | .template key => some key
  | .fragment _ => none

/-- The name under which a fragment is inherited. -/
def fragmentName? (d : Definition) : Option String :=
  match d.identity with
  | .template _ => none
  | .fragment name => some name

end Definition

end Docket
