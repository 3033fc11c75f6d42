import Docket.Template.Tag

/-!
# Reading bodies

The pieces of a body are gathered into a tree from left to right. Blocks that are still open form a
stack; a piece goes to the part of the innermost open block that is being written.

The first tag that means nothing or does not fit is the error of the body; after all tags come
braces that are never closed, then blocks that are never closed.
-/

namespace Docket.Template

/-- A block that is still open, its parts in reverse. -/
structure OpenBlock where
  kind : BlockKind
  path : Path
  body : List Node
  otherwise : Option (List Node)

/-- The block as a node, once it is closed. -/
def OpenBlock.close (b : OpenBlock) : Node :=
  .block b.kind b.path b.body.reverse (b.otherwise.getD []).reverse

/-- Adds a node to the part that is being written. -/
def OpenBlock.add (node : Node) (b : OpenBlock) : OpenBlock :=
  match b.otherwise with
  | some nodes => { b with otherwise := some (node :: nodes) }
  | none => { b with body := node :: b.body }

/-- What has been read of a body: the finished nodes in reverse and the open blocks, innermost
first. -/
structure Builder where
  nodes : List Node
  opened : List OpenBlock

namespace Builder

/-- Nothing read yet. -/
def empty : Builder := ⟨[], []⟩

/-- Adds a node at the place that is being written. -/
def add (node : Node) (b : Builder) : Builder :=
  match b.opened with
  | block :: rest => { b with opened := block.add node :: rest }
  | [] => { b with nodes := node :: b.nodes }

/-- Turns to the second part of the innermost open block. -/
def turn (b : Builder) : Except Error Builder :=
  match b.opened with
  | [] => .error (.unbalanced .elseOutside)
  | block :: rest =>
    match block.otherwise with
    | some _ => .error (.unbalanced (.secondElse block.kind))
    | none => .ok { b with opened := { block with otherwise := some [] } :: rest }

/-- Closes the innermost open block. -/
def close (kind : BlockKind) (b : Builder) : Except Error Builder :=
  match b.opened with
  | [] => .error (.unbalanced (.unopened kind))
  | block :: rest =>
    if block.kind = kind then .ok (add block.close { b with opened := rest })
    else .error (.unbalanced (.crossed block.kind kind))

/-- Takes in a tag. -/
def tag (t : Tag) (b : Builder) : Except Error Builder :=
  match t with
  | .expression e => .ok (b.add (.expr e))
  | .opening kind path => .ok { b with opened := ⟨kind, path, [], none⟩ :: b.opened }
  | .otherwise => b.turn
  | .closing kind => b.close kind

/-- Takes in pieces from left to right. -/
def pieces (b : Builder) : List Piece → Except Error Builder
  | [] => .ok b
  | .text cs :: rest => pieces (b.add (.text (String.ofList cs))) rest
  | .tag inner :: rest =>
    match Tag.read inner with
    | .error e => .error e
    | .ok t =>
      match b.tag t with
      | .error e => .error e
      | .ok b => pieces b rest

/-- The nodes of a body, if no block is open at its end. -/
def finish (b : Builder) : Except Error (List Node) :=
  match b.opened with
  | [] => .ok b.nodes.reverse
  | block :: _ => .error (.unbalanced (.unclosed block.kind))

end Builder

/-- Reads a body. -/
def parse (body : String) : Except Error (List Node) :=
  let cut := Cut.ofChars body.toList
  match Builder.empty.pieces cut.pieces with
  | .error e => .error e
  | .ok b =>
    match cut.unclosed with
    | some rest => .error (.invalidExpression (String.ofList rest))
    | none => b.finish

/-- Whether a body can be read, and the error if not. -/
def check (body : String) : Except Error Unit :=
  match parse body with
  | .error e => .error e
  | .ok _ => .ok ()

end Docket.Template
