import Docket.Event
import Docket.Inheritance.Merge

/-!
# Stores

A store holds templates by key and fragments by name, both in increasing order, and knows which of
its templates cannot be merged.

`Store.ofDefinitions` builds a store. Two definitions of the same identity do not go into one store;
trouble with inheritance only marks the templates concerned.
-/

namespace Docket

/-- Puts an entry with a new key into entries that are in increasing order of their keys. -/
def insertOrdered {κ α : Type} (before : κ → κ → Bool) (key : κ) (a : α) :
    List (κ × α) → List (κ × α)
  | [] => [(key, a)]
  | (k, b) :: rest =>
    if before key k then (key, a) :: (k, b) :: rest
    else (k, b) :: insertOrdered before key a rest

/-- Definitions that can be requested and inherited from. -/
structure Store where
  templates : List (TemplateKey × Definition) := []
  fragments : Fragments := []
deriving Inhabited

namespace Store

/-! ## Looking up -/

/-- The template of a key. -/
def template? (s : Store) (key : TemplateKey) : Option Definition := s.templates.lookup key

/-- The fragment of a name. -/
def fragment? (s : Store) (name : String) : Option Definition := s.fragments.lookup name

/-! ## Building -/

/-- Adds a definition whose identity is new. -/
def add (s : Store) (d : Definition) : Except Error Store :=
  match d.identity with
  | .template key =>
    match s.template? key with
    | some first => .error (.duplicate key.text first.source d.source)
    | none => .ok { s with templates := insertOrdered TemplateKey.before key d s.templates }
  | .fragment name =>
    match s.fragment? name with
    | some first => .error (.duplicate ("fragment:" ++ name) first.source d.source)
    | none =>
      .ok { s with fragments := insertOrdered (fun a b => decide (a < b)) name d s.fragments }

/-- The store of these definitions, unless two of them have the same identity. -/
def ofDefinitions (ds : List Definition) : Except Error Store := ds.foldlM add {}

/-! ## Inheritance -/

/-- A definition with everything that it inherits from the fragments of the store. -/
def merge (s : Store) (d : Definition) : Except Error MergedTemplate := d.merge s.fragments

/-- The templates that cannot be merged, with the reason. -/
def broken (s : Store) : List (TemplateKey × Error) :=
  s.templates.filterMap fun (key, d) => (Error.of? (s.merge d)).map fun e => (key, e)

/-- The fragments that cannot be merged, with the reason. -/
def useless (s : Store) : List (String × Error) :=
  s.fragments.filterMap fun (name, d) => (Error.of? (s.merge d)).map fun e => (name, e)

/-- Trouble with inheritance, fragments first. -/
def complaints (s : Store) : List Event :=
  (s.useless.map fun (name, e) => .uselessFragment name e)
    ++ s.broken.map fun (key, e) => .unusableTemplate key.text e

end Store

end Docket
