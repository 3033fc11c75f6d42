import Docket.Bindings
import Docket.Definition.Basic
import Docket.Filter.Apply
import Docket.Template.Body

/-!
# Rendering

## Bodies

Nodes are evaluated against bindings and the stack of enclosing loops. Warnings gather on the way,
each once; a failure keeps the warnings that came before it.

## Documents

All sections are read first, then required variables are checked, then the sections are rendered one
after another. Sections that come out blank are left out; the others are joined by a separator.
-/

namespace Docket.Template

/-! ## Bodies -/

/-- The present round of an enclosing loop. -/
structure Frame where
  item : Value
  index : Nat
  length : Nat

/-- A result together with the warnings so far; a failure has warnings, too. -/
structure Outcome (α : Type) where
  result : Except Error α
  warnings : List String

/-- A computation that adds warnings. -/
abbrev Rendering (α : Type) := List String → Outcome α

namespace Rendering

/-- A result without warnings of its own. -/
def done {α : Type} (a : α) : Rendering α := fun ws => ⟨.ok a, ws⟩

/-- A failure. -/
def fail {α : Type} (e : Error) : Rendering α := fun ws => ⟨.error e, ws⟩

/-- The result of a computation that gives no warnings. -/
def lift {α : Type} (r : Except Error α) : Rendering α := fun ws => ⟨r, ws⟩

/-- One computation after another; the second does not start if the first fails. -/
def andThen {α β : Type} (r : Rendering α) (f : α → Rendering β) : Rendering β := fun ws =>
  match r ws with
  | ⟨.ok a, ws⟩ => f a ws
  | ⟨.error e, ws⟩ => ⟨.error e, ws⟩

/-- Adds a warning unless it has been given already. -/
def warn (w : String) : Rendering Unit := fun ws =>
  ⟨.ok (), if ws.contains w then ws else ws ++ [w]⟩

end Rendering

open Rendering

/-- The innermost enclosing element that is a map with this key. -/
def owner? (frames : List Frame) (key : String) : Option Value :=
  (frames.find? fun frame => (frame.item.get? key).isSome).map (·.item)

/-- The value of a path. A path whose first step is a name belongs to the innermost enclosing
element that has it, even if the rest of the path leads nowhere there; every other path is looked up
in the bindings. -/
def resolve (b : Bindings) (frames : List Frame) (p : Path) : Option Value :=
  match p.scope with
  | .index => frames.head?.map fun frame => .number (.whole frame.index)
  | .first => frames.head?.map fun frame => .bool (frame.index == 0)
  | .last => frames.head?.map fun frame => .bool (frame.index + 1 == frame.length)
  | .this => frames.head?.bind fun frame => frame.item.walk p.segments
  | .root =>
    match p.firstName?.bind (owner? frames) with
    | some item => item.walk p.segments
    | none => b.lookup? p

/-- Takes note of a reference without value. -/
def missing (b : Bindings) (p : Path) : Rendering Unit :=
  (lift (b.noticeOf p)).andThen fun
    | some w => warn w
    | none => done ()

/-- Pipes a value through filters. -/
def applyFilters (label : String) : List FilterCall → Value → Except Error Value
  | [], v => .ok v
  | call :: rest, v =>
    match call.filter.apply v call.args label with
    | .error e => .error e
    | .ok v => applyFilters label rest v

/-- The text of a value after filters. -/
def filtered (e : Expression) (v : Value) : Rendering (List Char) :=
  lift ((applyFilters e.path.display e.filters v).map fun v => v.display.toList)

/-- The text of an expression. -/
def renderExpression (b : Bindings) (frames : List Frame) (e : Expression) :
    Rendering (List Char) :=
  match resolve b frames e.path with
  | some v => filtered e v
  | none =>
    if e.acceptsAbsence then filtered e .null
    else (missing b e.path).andThen fun _ => done []

/-- The items that a loop runs over: those of a list, and none for null or a missing value. -/
def loopItems (b : Bindings) (frames : List Frame) (p : Path) : Rendering (List Value) :=
  match resolve b frames p with
  | some (.list items) => done items
  | some .null => done []
  | some v => fail (.typeMismatch p.display "list" v.kind)
  | none => (missing b p).andThen fun _ => done []

/-- The texts of a loop's rounds from round `index` on, one after another. -/
def renderRounds (round : Frame → Rendering (List Char)) (length : Nat) :
    (index : Nat) → List Value → Rendering (List Char)
  | _, [] => done []
  | index, item :: items =>
    (round ⟨item, index, length⟩).andThen fun text =>
      (renderRounds round length (index + 1) items).andThen fun rest => done (text ++ rest)

mutual

/-- The text of a node. -/
def renderNode (b : Bindings) (frames : List Frame) : Node → Rendering (List Char)
  | .text s => done s.toList
  | .expr e => renderExpression b frames e
  | .block .cond path body otherwise =>
    if (resolve b frames path).any Value.isTruthy then renderNodes b frames body
    else renderNodes b frames otherwise
  | .block .loop path body otherwise =>
    (loopItems b frames path).andThen fun items =>
      if items.isEmpty then renderNodes b frames otherwise
      else renderRounds (fun frame => renderNodes b (frame :: frames) body) items.length 0 items

/-- The text of nodes, one after another. -/
def renderNodes (b : Bindings) (frames : List Frame) : List Node → Rendering (List Char)
  | [] => done []
  | node :: rest =>
    (renderNode b frames node).andThen fun text =>
      (renderNodes b frames rest).andThen fun tail => done (text ++ tail)

end

/-- The text of a body. A body that cannot be read adds no warnings. -/
def renderBody (b : Bindings) (body : String) : Rendering String :=
  (lift (parse body)).andThen fun nodes =>
    (renderNodes b [] nodes).andThen fun text => done (String.ofList text)

/-! ## Documents -/

/-- A section as it comes out. -/
structure RenderedSection where
  name : String
  text : String
deriving DecidableEq, Repr

/-- A rendered template. -/
structure Document where
  text : String
  sections : List RenderedSection
  warnings : List String
deriving DecidableEq, Repr

/-- A section whose body has been read. -/
structure ParsedSection where
  name : String
  nodes : List Node

/-- Reads the bodies of sections; the first error counts. -/
def parseSections : List Section → Except Error (List ParsedSection)
  | [] => .ok []
  | s :: rest =>
    match parse s.body with
    | .error e => .error e
    | .ok nodes =>
      match parseSections rest with
      | .error e => .error e
      | .ok parsed => .ok (⟨s.name, nodes⟩ :: parsed)

/-- Renders sections one after another and leaves out the blank ones. -/
def renderParsed (b : Bindings) : List ParsedSection → Rendering (List RenderedSection)
  | [] => done []
  | s :: rest =>
    (renderNodes b [] s.nodes).andThen fun text =>
      (renderParsed b rest).andThen fun tail =>
        done (if text.all Text.isBlank then tail else ⟨s.name, String.ofList text⟩ :: tail)

/-- Renders sections into a document. -/
def renderSections (separator : String) (sections : List Section) (b : Bindings) :
    Except Error Document :=
  match parseSections sections with
  | .error e => .error e
  | .ok parsed =>
    match b.requiredWarnings with
    | .error e => .error e
    | .ok warnings =>
      match renderParsed b parsed warnings with
      | ⟨.error e, _⟩ => .error e
      | ⟨.ok rendered, warnings⟩ =>
        .ok ⟨separator.intercalate (rendered.map (·.text)), rendered, warnings⟩

end Docket.Template
