import Docket.Definition.Basic

/-!
# Layers

What definitions inherit is laid over one another. A layer holds what definitions can hand on: a
description, sections, a schema.

`Layer.overlay` lays one layer over another. A section replaces the section of the same name where
it stands, a new section goes to the end. Of a variable every attribute that is set replaces the one
below, one by one. A description replaces the one below.
-/

namespace Docket

/-- What definitions hand on. -/
structure Layer where
  description : Option String := none
  sections : List Section := []
  schema : Schema := []
deriving Inhabited

/-- What a definition says itself. -/
def Definition.layer (d : Definition) : Layer := ⟨d.description, d.sections, d.schema⟩

namespace Layer

/-- Lays one section over others. -/
def overlaySection (sections : List Section) (s : Section) : List Section :=
  match sections with
  | [] => [s]
  | t :: rest => if t.name = s.name then ⟨t.name, s.body⟩ :: rest else t :: overlaySection rest s

/-- Lays sections over others, one after another. -/
def overlaySections (lower upper : List Section) : List Section :=
  upper.foldl overlaySection lower

/-- Lays one declaration over another: attributes that are set replace those below. -/
def overlayDeclaration (lower upper : Declaration) : Declaration where
  required := upper.required.or lower.required
  default := upper.default.or lower.default
  description := upper.description.or lower.description

/-- Lays the declaration of one variable over a schema. -/
def overlayVariable (schema : Schema) (name : String) (upper : Declaration) : Schema :=
  match schema with
  | [] => [(name, upper)]
  | (n, lower) :: rest =>
    if n = name then (n, overlayDeclaration lower upper) :: rest
    else (n, lower) :: overlayVariable rest name upper

/-- Lays a schema over another, one variable after another. -/
def overlaySchema (lower upper : Schema) : Schema :=
  upper.foldl (fun acc (name, declaration) => overlayVariable acc name declaration) lower

/-- Lays a layer over another. -/
def overlay (lower upper : Layer) : Layer where
  description := upper.description.or lower.description
  sections := overlaySections lower.sections upper.sections
  schema := overlaySchema lower.schema upper.schema

end Layer

end Docket
