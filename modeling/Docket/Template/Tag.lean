import Docket.Template.Expression

/-!
# Tags

## Cutting

`Cut.ofChars` cuts a body into texts and tags. A tag runs from the next pair of opening braces to
the first pair of closing braces after it.

## Meaning

`Tag.read` says what a tag means by itself: an expression, the start or the end of a block, or the
turn to its second part.
-/

namespace Docket.Template

/-! ## Cutting -/

/-- A piece of a body: text, or a tag given by what stands between its braces. -/
inductive Piece where
  | text (cs : List Char)
  | tag (inner : List Char)
deriving DecidableEq

/-- A body cut into pieces, with what is left from opening braces that are never closed. -/
structure Cut where
  pieces : List Piece
  unclosed : Option (List Char)
deriving DecidableEq

/-- A character of text before a cut. -/
def Cut.addChar (c : Char) (cut : Cut) : Cut :=
  match cut.pieces with
  | .text cs :: rest => { cut with pieces := .text (c :: cs) :: rest }
  | pieces => { cut with pieces := .text [c] :: pieces }

mutual

/-- Cuts a body from a place outside tags. -/
def Cut.ofChars : List Char → Cut
  | [] => ⟨[], none⟩
  | '\x7b' :: '\x7b' :: rest =>
    match Cut.ofTag rest with
    | none => ⟨[], some ('\x7b' :: '\x7b' :: rest)⟩
    | some (inner, cut) => { cut with pieces := .tag inner :: cut.pieces }
  | c :: rest => (Cut.ofChars rest).addChar c

/-- Cuts a body from a place inside a tag: the rest of the tag and the cut behind it. -/
def Cut.ofTag : List Char → Option (List Char × Cut)
  | [] => none
  | '\x7d' :: '\x7d' :: rest => some ([], Cut.ofChars rest)
  | c :: rest => (Cut.ofTag rest).map fun (inner, cut) => (c :: inner, cut)

end

/-! ## Meaning -/

/-- A tag that means something. -/
inductive Tag where
  | expression (e : Expression)
  | opening (kind : BlockKind) (path : Path)
  | otherwise
  | closing (kind : BlockKind)

/-- A tag as it stands in the body. -/
def braced (inner : List Char) : String :=
  String.ofList ('\x7b' :: '\x7b' :: (inner ++ ['\x7d', '\x7d']))

/-- The block with a given keyword. -/
def blockOf? (keyword : List Char) : Option BlockKind :=
  if keyword = ['i', 'f'] then some .cond
  else if keyword = ['e', 'a', 'c', 'h'] then some .loop
  else none

/-- The keyword of the turn to a block's second part. -/
def elseKeyword : List Char := ['e', 'l', 's', 'e']

/-- A directive's keyword and its argument, the white space around it aside. -/
def splitDirective (directive : List Char) : List Char × List Char :=
  match Text.splitOnce Text.isBlank directive with
  | some (keyword, argument) => (keyword, Text.trim argument)
  | none => (directive, [])

/-- Reads a directive, the part of a tag after `#`. -/
def readDirective (invalid : Error) (directive : List Char) : Except Error Tag :=
  let (keyword, argument) := splitDirective directive
  match blockOf? keyword with
  | some kind =>
    if argument.isEmpty then .error invalid
    else
      match Path.parse (String.ofList argument) with
      | .error e => .error e
      | .ok path => .ok (.opening kind path)
  | none => if keyword = elseKeyword && argument.isEmpty then .ok .otherwise else .error invalid

/-- Reads a tag from what stands between its braces. -/
def Tag.read (inner : List Char) : Except Error Tag :=
  let invalid : Error := .invalidExpression (braced inner)
  match Text.trim inner with
  | [] => .error invalid
  | '#' :: directive => readDirective invalid directive
  | '/' :: keyword =>
    match blockOf? (Text.trim keyword) with
    | some kind => .ok (.closing kind)
    | none => .error invalid
  | cs =>
    if cs = elseKeyword then .ok .otherwise
    else
      match readExpression cs with
      | .error e => .error e
      | .ok e => .ok (.expression e)

end Docket.Template
