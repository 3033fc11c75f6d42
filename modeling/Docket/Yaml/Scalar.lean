import Docket.Number.Numeral
import Docket.Yaml.Cursor

/-!
# Scalars as they are written

The three ways to write a scalar: plain, between quotes, and as a block of lines. Each reader gives
the value and the cursor behind the scalar, or nothing if the text is malformed.

## Gaps

White space inside plain and quoted scalars is folded: a single line end becomes a blank, further
ones stay.

## Plain, quoted, block

The loops over lines take the length of the text as fuel; every round uses up a character.
-/

namespace Docket.Yaml

/-! ## Gaps -/

/-- White space between two words of a scalar. -/
structure Gap where
  /-- Blanks before any line end, in reverse. -/
  blanks : List Char
  /-- Whether a line end has been passed. -/
  broken : Bool
  /-- The first line end. -/
  first : Option Char
  /-- All further line ends, in reverse. -/
  further : List Char

namespace Gap

/-- No white space. -/
def none : Gap := ⟨[], false, .none, []⟩

/-- The gap after an escaped line end, which leaves no trace itself. -/
def escaped : Gap := ⟨[], true, .none, []⟩

/-- Adds a blank; blanks behind a line end do not count. -/
def addBlank (c : Char) (g : Gap) : Gap :=
  if g.broken then g else { g with blanks := c :: g.blanks }

/-- Adds a line end. -/
def addBreak (c : Char) (g : Gap) : Gap :=
  if g.broken then { g with further := c :: g.further }
  else ⟨[], true, some c, []⟩

/-- What the gap contributes to the value. -/
def folded (g : Gap) : List Char :=
  if g.broken then
    if g.first = some '\n' then if g.further.isEmpty then [' '] else g.further.reverse
    else g.first.toList ++ g.further.reverse
  else g.blanks.reverse

end Gap

/-- Reads white space. Behind a line end, a tab to the left of `limit` is malformed. -/
def readGap (limit : Int) : List Char → Mark → Gap → Option (Gap × Cursor)
  | [], m, g => some (g, ⟨m, []⟩)
  | '\r' :: '\n' :: rest, m, g => readGap limit rest (m.nextLine 2) (g.addBreak '\n')
  | c :: rest, m, g =>
    if isBlank c then
      if g.broken && c = '\t' && (m.column : Int) < limit then none
      else readGap limit rest (m.forward 1) (g.addBlank c)
    else if isBreak c then readGap limit rest (m.nextLine 1) (g.addBreak (breakValue c))
    else some (g, ⟨m, c :: rest⟩)

/-! ## Plain -/

/-- Brackets, braces and the comma. -/
def isFlowSign (c : Char) : Bool :=
  c = ',' || c = '[' || c = ']' || c = '\x7b' || c = '\x7d'

/-- A run of characters of a plain scalar: it ends at a gap, at a colon before a gap, and inside
brackets at their signs. A colon right before such a sign is malformed there. -/
def plainWord (inFlow : Bool) : List Char → Option (List Char × List Char)
  | [] => some ([], [])
  | c :: rest =>
    if isGap c then some ([], c :: rest)
    else if inFlow && c = ':' && (rest.head?.any fun d => isFlowSign d || d = '?') then none
    else if (c = ':' && atGap rest) || (inFlow && isFlowSign c) then some ([], c :: rest)
    else (plainWord inFlow rest).map fun (word, rest) => (c :: word, rest)

/-- A plain scalar from a place where a word or its end may stand. The result also says whether the
scalar ends behind a line end. -/
def plainFrom (inFlow : Bool) (indent : Int) :
    (fuel : Nat) → Gap → (value : List Char) → Cursor → Option (List Char × Bool × Cursor)
  | 0, _, _, _ => none
  | fuel + 1, gap, value, c =>
    if c.atDocumentMarker || c.rest.head? = some '#' then some (value, gap.broken, c)
    else
      match plainWord inFlow c.rest with
      | none => none
      | some (word, rest) =>
        let behind : Cursor := ⟨c.mark.forward word.length, rest⟩
        let value := if word.isEmpty then value else value ++ gap.folded ++ word
        let gap := if word.isEmpty then gap else Gap.none
        match rest with
        | [] => some (value, gap.broken, behind)
        | d :: _ =>
          if !isGap d then some (value, gap.broken, behind)
          else
            match readGap indent rest behind.mark gap with
            | none => none
            | some (gap, c) =>
              if !inFlow && (c.mark.column : Int) < indent then some (value, gap.broken, c)
              else plainFrom inFlow indent fuel gap value c

/-- A plain scalar. -/
def readPlain (inFlow : Bool) (indent : Int) (c : Cursor) : Option (List Char × Bool × Cursor) :=
  plainFrom inFlow indent (c.rest.length + 1) .none [] c

/-! ## Quoted -/

/-- The character that a letter behind a backslash stands for. -/
def escapeValue? (c : Char) : Option Char :=
  match c with
  | '0' => some (Char.ofNat 0)
  | 'a' => some (Char.ofNat 7)
  | 'b' => some (Char.ofNat 8)
  | 't' | '\t' => some '\t'
  | 'n' => some '\n'
  | 'v' => some (Char.ofNat 11)
  | 'f' => some (Char.ofNat 12)
  | 'r' => some '\r'
  | 'e' => some (Char.ofNat 27)
  | ' ' => some ' '
  | '"' => some '"'
  | '/' => some '/'
  | '\\' => some '\\'
  | 'N' => some (Char.ofNat 0x85)
  | '_' => some (Char.ofNat 0xA0)
  | 'L' => some (Char.ofNat 0x2028)
  | 'P' => some (Char.ofNat 0x2029)
  | _ => none

/-- The character with the code point that hexadecimal digits write. -/
def codePoint? (digits : List Char) : Option Char :=
  (Numeral.valueOf 16 digits).bind fun n =>
    if n.isValidChar then some (Char.ofNat n) else none

/-- How a run of characters inside quotes ends. -/
inductive WordEnd where
  | gap
  | escapedBreak

/-- Characters inside quotes up to a gap or the closing quote, or up to and with an escaped line
end. -/
def quotedWord (single : Bool) :
    List Char → Mark → Option (List Char × WordEnd × Cursor)
  | [], m => some ([], .gap, ⟨m, []⟩)
  | '\'' :: '\'' :: rest, m =>
    if single then
      (quotedWord single rest (m.forward 2)).map fun (w, e, c) => ('\'' :: w, e, c)
    else
      (quotedWord single rest (m.forward 2)).map fun (w, e, c) => ('\'' :: '\'' :: w, e, c)
  | '\\' :: '\r' :: '\n' :: rest, m =>
    if single then some (['\\'], .gap, ⟨m.forward 1, '\r' :: '\n' :: rest⟩)
    else some ([], .escapedBreak, ⟨(m.forward 1).nextLine 2, rest⟩)
  | '\\' :: 'x' :: a :: b :: rest, m =>
    if single then
      (quotedWord single ('x' :: a :: b :: rest) (m.forward 1)).map fun (w, e, c) =>
        ('\\' :: w, e, c)
    else
      (codePoint? [a, b]).bind fun ch =>
        (quotedWord single rest (m.forward 4)).map fun (w, e, c) => (ch :: w, e, c)
  | '\\' :: 'u' :: a :: b :: c :: d :: rest, m =>
    if single then
      (quotedWord single ('u' :: a :: b :: c :: d :: rest) (m.forward 1)).map fun (w, e, cur) =>
        ('\\' :: w, e, cur)
    else
      (codePoint? [a, b, c, d]).bind fun ch =>
        (quotedWord single rest (m.forward 6)).map fun (w, e, cur) => (ch :: w, e, cur)
  | '\\' :: 'U' :: a :: b :: c :: d :: f :: g :: h :: i :: rest, m =>
    if single then
      (quotedWord single ('U' :: a :: b :: c :: d :: f :: g :: h :: i :: rest)
        (m.forward 1)).map fun (w, e, cur) => ('\\' :: w, e, cur)
    else
      (codePoint? [a, b, c, d, f, g, h, i]).bind fun ch =>
        (quotedWord single rest (m.forward 10)).map fun (w, e, cur) => (ch :: w, e, cur)
  | '\\' :: d :: rest, m =>
    if single then
      (quotedWord single (d :: rest) (m.forward 1)).map fun (w, e, c) => ('\\' :: w, e, c)
    else if isBreak d then some ([], .escapedBreak, ⟨(m.forward 1).nextLine 1, rest⟩)
    else
      (escapeValue? d).bind fun ch =>
        (quotedWord single rest (m.forward 2)).map fun (w, e, c) => (ch :: w, e, c)
  | c :: rest, m =>
    if isGap c || c = (if single then '\'' else '"') then some ([], .gap, ⟨m, c :: rest⟩)
    else if c = '\\' && !single then none
    else (quotedWord single rest (m.forward 1)).map fun (w, e, cur) => (c :: w, e, cur)

/-- A quoted scalar from a place behind its opening quote. -/
def quotedFrom (single : Bool) :
    (fuel : Nat) → (value : List Char) → Cursor → Option (List Char × Cursor)
  | 0, _, _ => none
  | fuel + 1, value, c =>
    if c.atDocumentMarker || c.rest.isEmpty then none
    else
      match quotedWord single c.rest c.mark with
      | none => none
      | some (word, ending, c) =>
        let value := value ++ word
        if c.rest.head? = some (if single then '\'' else '"') then some (value, c.forward 1)
        else
          let gap := match ending with
            | .gap => Gap.none
            | .escapedBreak => Gap.escaped
          match readGap (-1) c.rest c.mark gap with
          | none => none
          | some (gap, c) => quotedFrom single fuel (value ++ gap.folded) c

/-- A quoted scalar from its opening quote on. -/
def readQuoted (single : Bool) (c : Cursor) : Option (List Char × Cursor) :=
  quotedFrom single (c.rest.length + 1) [] (c.forward 1)

/-! ## Block -/

/-- What becomes of the line ends behind a block. -/
inductive Chomping where
  | strip
  | clip
  | keep
deriving DecidableEq

/-- The sign of a chomping. -/
def chomping? (c : Char) : Option Chomping :=
  if c = '+' then some .keep else if c = '-' then some .strip else none

/-- A digit of an indentation; zero is malformed. -/
def increment? (c : Char) : Option (Option Nat) :=
  if Numeral.isDigit c then
    if c = '0' then none else some (some (c.toNat - '0'.toNat))
  else some none

/-- The header of a block behind its sign: chomping and indentation in either order. -/
def blockHeader (c : Cursor) : Option (Chomping × Option Nat × Cursor) :=
  match c.rest with
  | a :: rest =>
    match chomping? a with
    | some chomping =>
      match rest with
      | b :: _ =>
        (increment? b).map fun
          | some n => (chomping, some n, c.forward 2)
          | none => (chomping, none, c.forward 1)
      | [] => some (chomping, none, c.forward 1)
    | none =>
      (increment? a).map fun
        | some n =>
          match rest.head?.bind chomping? with
          | some chomping => (chomping, some n, c.forward 2)
          | none => (.clip, some n, c.forward 1)
        | none => (.clip, none, c)
  | [] => some (.clip, none, c)

/-- Reads indentation and empty lines. `indent` is zero while the indentation is not known. The
result holds the largest column seen, the line ends in reverse, and the cursor; a tab in place of
indentation is malformed. -/
def blockBreaks (indent : Nat) :
    List Char → Mark → (most : Nat) → (breaks : List Char) → Option (Nat × List Char × Cursor)
  | [], m, most, breaks => some (max most m.column, breaks, ⟨m, []⟩)
  | '\r' :: '\n' :: rest, m, most, breaks =>
    blockBreaks indent rest (m.nextLine 2) (max most m.column) ('\n' :: breaks)
  | c :: rest, m, most, breaks =>
    let inIndent := indent = 0 || m.column < indent
    if inIndent && c = ' ' then blockBreaks indent rest (m.forward 1) most breaks
    else if inIndent && c = '\t' then none
    else if isBreak c then
      blockBreaks indent rest (m.nextLine 1) (max most m.column) (breakValue c :: breaks)
    else some (max most m.column, breaks, ⟨m, c :: rest⟩)

/-- What has been read of a block. -/
structure BlockText where
  value : List Char
  /-- The line end behind the last line. -/
  lead : List Char
  /-- The empty lines behind it. -/
  trail : List Char
  /-- Whether the last line starts with a blank. -/
  blankStart : Bool

/-- The value before the next line: in a folded block, a line end between two lines that do not
start with a blank becomes a blank, unless empty lines follow. -/
def BlockText.joined (literal : Bool) (blankNext : Bool) (t : BlockText) : List Char :=
  if !literal && t.lead = ['\n'] && !t.blankStart && !blankNext then
    if t.trail.isEmpty then t.value ++ [' '] else t.value ++ t.trail
  else t.value ++ t.lead ++ t.trail

/-- The lines of a block from a place where a line or the end of the block may stand. -/
def blockLines (literal : Bool) (indent : Nat) :
    (fuel : Nat) → BlockText → Cursor → Option (BlockText × Cursor)
  | 0, _, _ => none
  | fuel + 1, t, c =>
    match c.rest with
    | [] => some (t, c)
    | d :: _ =>
      if c.mark.column ≠ indent then some (t, c)
      else
        let blank := isBlank d
        let value := t.joined literal blank
        let (line, c) := c.run fun ch => !isBreak ch
        let (lead, c) := match c.lineBreak? with
          | some (b, c) => ([b], c)
          | none => ([], c)
        match blockBreaks indent c.rest c.mark 0 [] with
        | none => none
        | some (_, breaks, c) =>
          blockLines literal indent fuel ⟨value ++ line, lead, breaks.reverse, blank⟩ c

/-- A block scalar from its sign on, inside a block of indentation `parent`. -/
def readBlock (literal : Bool) (parent : Int) (c : Cursor) : Option (List Char × Cursor) :=
  match blockHeader (c.forward 1) with
  | none => none
  | some (chomping, increment, c) =>
    let c := (c.skip isBlank).skipComment
    if !atLineEnd c.rest then none
    else
      let c := c.skipBreak
      let known := match increment with
        | some n => (if 0 ≤ parent then parent + n else n).toNat
        | none => 0
      match blockBreaks known c.rest c.mark 0 [] with
      | none => none
      | some (most, breaks, c) =>
        let indent := if known = 0 then max (max most (parent + 1).toNat) 1 else known
        match blockLines literal indent (c.rest.length + 1) ⟨[], [], breaks.reverse, false⟩ c with
        | none => none
        | some (t, c) =>
          let tail := match chomping with
            | .strip => []
            | .clip => t.lead
            | .keep => t.lead ++ t.trail
          some (t.value ++ tail, c)

end Docket.Yaml
