import Docket.Output
import Docket.Store.Basic

/-!
# Resolution

A request that no template matches exactly falls back to more general ones: the platform's default
for the document type, the technology's default for it on any platform, and at last the built-in
template, which is always there.

`Store.resolve` takes the first step that the store has a template for. A template that cannot be
merged ends the search all the same.
-/

namespace Docket

/-- The steps of the search. -/
inductive FallbackStep where
  | exact
  | platformDefault
  | stackDefault
  | builtin
deriving DecidableEq, Repr

namespace FallbackStep

/-- The steps in the order in which they are tried. -/
def chain : List FallbackStep := [.exact, platformDefault, stackDefault, builtin]

/-- The name of a step. -/
def name : FallbackStep → String
  | .exact => "exact"
  | platformDefault => "platform+docType-default"
  | stackDefault => "techStack+docType-default"
  | builtin => "builtin-default"

/-- The label of a step that found a template. -/
def hit (s : FallbackStep) : String := s.name ++ "-hit"

/-- The label of a step that found none. -/
def miss (s : FallbackStep) : String := s.name ++ "-miss"

/-- The technology stack of a platform's default. -/
def anyStack : String := "custom"

/-- The platform of a technology's default. -/
def anyPlatform : String := "any"

/-- The key that a step looks for; the last step looks for none. -/
def key? (s : FallbackStep) (r : Request) : Option TemplateKey :=
  match s with
  | .exact => some r.key
  | platformDefault => some ⟨r.platform, r.documentType, anyStack⟩
  | stackDefault => some ⟨anyPlatform, r.documentType, r.techStack⟩
  | builtin => none

end FallbackStep

/-- The template that is there for every request. -/
def builtinTemplate : MergedTemplate where
  id := "builtin/default@1"
  key := none
  version := "1"
  description := some "Built-in minimal default"
  sections :=
    [⟨"Summary", "\x7b\x7b title \x7d\x7d"⟩,
     ⟨"Description",
      "\x7b\x7b#if description\x7d\x7d\x7b\x7b description \x7d\x7d\x7b\x7b#else\x7d\x7d"
        ++ "No description provided.\x7b\x7b/if\x7d\x7d"⟩]
  schema :=
    [("title", { required := some false, default := some (.text "Untitled document") }),
     ("description", { required := some false })]
  lineage := []
  source := ""

/-- The template selected for a request, and how it was found. -/
structure Resolution where
  template : MergedTemplate
  path : List String
  step : FallbackStep

namespace Store

/-- Tries steps in order, with the labels of those that came before. -/
def resolveFrom (s : Store) (r : Request) (path : List String) :
    List FallbackStep → Except Failure Resolution
  | [] => .ok ⟨builtinTemplate, path, .builtin⟩
  | step :: rest =>
    match step.key? r with
    | none => .ok ⟨builtinTemplate, path ++ [step.hit], step⟩
    | some key =>
      match s.template? key with
      | none => s.resolveFrom r (path ++ [step.miss]) rest
      | some d =>
        match s.merge d with
        | .ok template => .ok ⟨template, path ++ [step.hit], step⟩
        | .error e => .error ⟨e, d.id, path ++ [step.hit], none⟩

/-- The template for a request. -/
def resolve (s : Store) (r : Request) : Except Failure Resolution :=
  s.resolveFrom r [] FallbackStep.chain

end Store

end Docket
