import Docket.Request
import Docket.Value.Print
import Docket.Value.Read

/-!
# The notation of requests

A request is written as a map of its parts, or as a list of them in order. The strictness may be
left out; a part of another name is passed over, a part given twice is an error.
-/

namespace Docket

/-- The strictness that a value writes: its name, alone or as the only key of a map to null. -/
def Strictness.ofValue? : Value → Option Strictness
  | .text s => Strictness.ofName? s
  | .map [(s, .null)] => Strictness.ofName? s
  | _ => none

namespace Request

/-- A request while it is read. -/
structure Draft where
  platform : Option String := none
  documentType : Option String := none
  techStack : Option String := none
  strictness : Option Strictness := none

/-- Sets a part that may be given once. -/
def Draft.fill {α : Type} (part : Option α) (given : Option α) : Option (Option α) :=
  match part, given with
  | none, some a => some (some a)
  | _, _ => none

/-- The text of a value that is a text. -/
def text? : Value → Option String
  | .text s => some s
  | _ => none

/-- Takes note of one entry. -/
def Draft.set? (d : Draft) (name : String) (v : Value) : Option Draft :=
  match name with
  | "platform" => (fill d.platform (text? v)).map fun p => { d with platform := p }
  | "documentType" => (fill d.documentType (text? v)).map fun p => { d with documentType := p }
  | "techStack" => (fill d.techStack (text? v)).map fun p => { d with techStack := p }
  | "strictness" =>
    (fill d.strictness (Strictness.ofValue? v)).map fun p => { d with strictness := p }
  | _ => some d

/-- The request that a draft has become. -/
def Draft.finish? (d : Draft) : Option Request :=
  match d.platform, d.documentType, d.techStack with
  | some platform, some documentType, some techStack =>
    some ⟨platform, documentType, techStack, d.strictness.getD .lenient⟩
  | _, _, _ => none

/-- The request that a value writes. -/
def ofValue? : Value → Option Request
  | .map entries =>
    (entries.foldlM (fun (d : Draft) (name, v) => d.set? name v) {}).bind Draft.finish?
  | .list [.text platform, .text documentType, .text techStack] =>
    some ⟨platform, documentType, techStack, .lenient⟩
  | .list [.text platform, .text documentType, .text techStack, strictness] =>
    (Strictness.ofValue? strictness).map fun s => ⟨platform, documentType, techStack, s⟩
  | _ => none

/-- Reads a request. -/
def read? (s : String) : Option Request := (Value.readWritten s).bind ofValue?

/-- A request as a map of its parts in order. -/
def written (r : Request) : Value :=
  .map
    [("platform", .text r.platform), ("documentType", .text r.documentType),
     ("techStack", .text r.techStack), ("strictness", .text r.strictness.name)]

end Request

end Docket
