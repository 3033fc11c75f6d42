/-!
# Requests

A request names the template that is wanted by platform, document type and technology stack, and
says how missing data is to be treated.
-/

namespace Docket

/-- What happens to a reference that nothing satisfies: `lenient` renders it as nothing and warns,
`strict` fails. -/
inductive Strictness where
  | lenient
  | strict
deriving DecidableEq, Repr, Inhabited

/-- The name of a strictness in requests, configurations and on the command line. -/
def Strictness.name : Strictness → String
  | lenient => "lenient"
  | strict => "strict"

/-- The strictness with a given name. -/
def Strictness.ofName? (s : String) : Option Strictness :=
  if s = "lenient" then some lenient
  else if s = "strict" then some strict
  else none

/-- The identity of a template that can be requested. -/
structure TemplateKey where
  platform : String
  documentType : String
  techStack : String
deriving DecidableEq, Repr, Inhabited

namespace TemplateKey

/-- The three parts with slashes between them. -/
def text (k : TemplateKey) : String := k.platform ++ "/" ++ k.documentType ++ "/" ++ k.techStack

/-- Order by platform, then document type, then stack. -/
def before (a b : TemplateKey) : Bool :=
  if a.platform = b.platform then
    if a.documentType = b.documentType then a.techStack < b.techStack
    else a.documentType < b.documentType
  else a.platform < b.platform

end TemplateKey

/-- A request for a document. -/
structure Request where
  platform : String
  documentType : String
  techStack : String
  strictness : Strictness
deriving DecidableEq, Repr, Inhabited

namespace Request

/-- The template that is asked for first. -/
def key (r : Request) : TemplateKey := ⟨r.platform, r.documentType, r.techStack⟩

/-- A request as messages show it. -/
def text (r : Request) : String :=
  "(" ++ r.platform ++ ", " ++ r.documentType ++ ", " ++ r.techStack ++ ", " ++ r.strictness.name
    ++ ")"

end Request

end Docket
