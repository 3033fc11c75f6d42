import Docket.Error
import Docket.Event
import Docket.Template.Render
import Docket.Value.Print

/-!
# Outputs

What a generation hands out: an `Output`, or a `Failure` that tells which template was selected and
how far the search for it went.
-/

namespace Docket

/-- A generated document. -/
structure Output where
  text : String
  templateId : String
  /-- The steps that were tried to find the template. -/
  path : List String
  warnings : List String
  sections : List Template.RenderedSection
deriving DecidableEq, Repr

/-- The output that a rendered template becomes. -/
def Template.Document.output (d : Template.Document) (templateId : String) (path : List String) :
    Output :=
  ⟨d.text, templateId, path, d.warnings, d.sections⟩

/-- A list of texts as data. -/
def Value.texts (l : List String) : Value := .list (l.map .text)

/-- An output as data, its fields in order. -/
def Output.written (o : Output) : Value :=
  .map
    [("renderedText", .text o.text), ("templateId", .text o.templateId),
     ("fallbackPathTaken", .texts o.path), ("warnings", .texts o.warnings),
     ("sections",
       .list (o.sections.map fun s => .map [("name", .text s.name), ("text", .text s.text)]))]

/-- A generation that failed. -/
structure Failure where
  cause : Error
  templateId : String
  path : List String
  /-- What the built-in template gives in place of the failed one, if that is wanted. -/
  degraded : Option Output

namespace Failure

/-- The wording of a failure. -/
def message (f : Failure) : String :=
  "Failed to generate '" ++ f.templateId ++ "' (path: " ++ trail f.path ++ "): " ++ f.cause.message

/-- The exit code of a command that ends with this failure. -/
def exitCode (f : Failure) : Nat := f.cause.exitCode

end Failure

end Docket
