/-!
# Places in a text

A cursor is what is left of a text together with the place reached so far. Lines and columns are
counted from zero; a line ends at a carriage return, a line feed, both together, or one of the three
line separators beyond ASCII.
-/

namespace Docket.Yaml

/-- A place: characters before it, lines before it, characters before it on its line. -/
structure Mark where
  index : Nat
  line : Nat
  column : Nat
deriving DecidableEq, Repr, Inhabited

namespace Mark

/-- The start of a text. -/
def start : Mark := ⟨0, 0, 0⟩

/-- The place `n` characters further on the same line. -/
def forward (m : Mark) (n : Nat) : Mark := ⟨m.index + n, m.line, m.column + n⟩

/-- The start of the next line, behind a line break of `n` characters. -/
def nextLine (m : Mark) (n : Nat) : Mark := ⟨m.index + n, m.line + 1, 0⟩

end Mark

/-- A rest of a text and its place. -/
structure Cursor where
  mark : Mark
  rest : List Char

/-! ## Characters -/

/-- Characters that end a line. -/
def isBreak (c : Char) : Bool :=
  c = '\n' || c = '\r' || c = Char.ofNat 0x85 || c = Char.ofNat 0x2028 || c = Char.ofNat 0x2029

/-- Blanks within a line. -/
def isBlank (c : Char) : Bool := c = ' ' || c = '\t'

/-- Blanks and line ends. -/
def isGap (c : Char) : Bool := isBlank c || isBreak c

/-- Whether a text is at its end, at a blank or at a line end. -/
def atGap : List Char → Bool
  | [] => true
  | c :: _ => isGap c

/-- Whether a text is at its end or at a line end. -/
def atLineEnd : List Char → Bool
  | [] => true
  | c :: _ => isBreak c

/-- Characters of anchors, directives and tag handles. -/
def isWordChar (c : Char) : Bool :=
  ('0' ≤ c && c ≤ '9') || ('A' ≤ c && c ≤ 'Z') || ('a' ≤ c && c ≤ 'z') || c = '_' || c = '-'

/-- The characters that a text may hold at all: no controls apart from tab and line ends. -/
def isAllowed (c : Char) : Bool :=
  let n := c.toNat
  n = 0x09 || n = 0x0A || n = 0x0D || (0x20 ≤ n && n ≤ 0x7E) || n = 0x85
    || (0xA0 ≤ n && n ≤ 0xD7FF) || (0xE000 ≤ n && n ≤ 0xFFFD) || 0x10000 ≤ n

/-- How a line end counts in a value: the two separators stay, all others become a line feed. -/
def breakValue (c : Char) : Char :=
  if c = Char.ofNat 0x2028 || c = Char.ofNat 0x2029 then c else '\n'

namespace Cursor

/-- The cursor `n` characters further, none of them a line end. -/
def forward (c : Cursor) (n : Nat) : Cursor := ⟨c.mark.forward n, c.rest.drop n⟩

/-- A run of characters of a class that holds no line end, and the cursor behind it. -/
def run (p : Char → Bool) (c : Cursor) : List Char × Cursor :=
  let taken := c.rest.takeWhile p
  (taken, ⟨c.mark.forward taken.length, c.rest.dropWhile p⟩)

/-- The cursor behind a run of characters of a class that holds no line end. -/
def skip (p : Char → Bool) (c : Cursor) : Cursor := (c.run p).2

/-- A line end and the cursor behind it. -/
def lineBreak? (c : Cursor) : Option (Char × Cursor) :=
  match c.rest with
  | '\r' :: '\n' :: rest => some ('\n', ⟨c.mark.nextLine 2, rest⟩)
  | b :: rest => if isBreak b then some (breakValue b, ⟨c.mark.nextLine 1, rest⟩) else none
  | [] => none

/-- The cursor behind a line end, or the same cursor if there is none. -/
def skipBreak (c : Cursor) : Cursor :=
  match c.lineBreak? with
  | some (_, c) => c
  | none => c

/-- The cursor behind a comment, if one starts here. -/
def skipComment (c : Cursor) : Cursor :=
  match c.rest with
  | '#' :: _ => c.skip fun ch => !isBreak ch
  | _ => c

/-- Whether a line starts here with three equal characters that stand alone. -/
def atMarker (sign : Char) (c : Cursor) : Bool :=
  c.mark.column == 0 &&
    match c.rest with
    | x :: y :: z :: rest => x = sign && y = sign && z = sign && atGap rest
    | _ => false

/-- Whether a document starts or ends here. -/
def atDocumentMarker (c : Cursor) : Bool := c.atMarker '-' || c.atMarker '.'

end Cursor

end Docket.Yaml
