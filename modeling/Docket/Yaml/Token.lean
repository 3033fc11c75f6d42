import Docket.Yaml.Scalar

/-!
# Tokens of a document

A text is cut into tokens from left to right. Three things are remembered on the way.

## Indentation

Outside brackets, a token further to the right than the present block opens a block, and one further
to the left closes blocks. Both are tokens of their own.

## Simple keys

A key may be recognized only by the colon behind it. Each level of brackets has a place for one
candidate; when a colon follows on the same line and not too far away, a key token is put in front
of the candidate.

## Scanning

`Token.scan` gives all tokens of a text, or nothing if the text is malformed.
-/

namespace Docket.Yaml

/-- How a scalar is written. -/
inductive Style where
  | plain
  | quoted
  | literal
  | folded
deriving DecidableEq, Repr

/-- What a token is. -/
inductive TokenKind where
  | streamEnd
  | version (major minor : Nat)
  | tagHandle (handle expansion : List Char)
  | documentStart
  | documentEnd
  | blockSequence
  | blockMapping
  | blockEnd
  | flowSequence
  | flowSequenceEnd
  | flowMapping
  | flowMappingEnd
  | blockEntry
  | flowEntry
  | key
  | value
  | alias (name : List Char)
  | anchor (name : List Char)
  | tag (handle suffix : List Char)
  | scalar (style : Style) (text : List Char)
deriving DecidableEq, Repr

/-- A token with the places of its start and its end. -/
structure Token where
  kind : TokenKind
  start : Mark
  stop : Mark

namespace Token

/-- A candidate for a simple key. -/
structure Candidate where
  /-- A candidate that must turn out to be a key, as it starts a line of its block. -/
  required : Bool
  /-- How many tokens come before it. -/
  position : Nat
  mark : Mark

/-- The state of the scanner. -/
structure Scanner where
  cursor : Cursor
  /-- The indentation of the present block; -1 outside all blocks. -/
  indent : Int
  /-- The indentations of the enclosing blocks, innermost first. -/
  outer : List Int
  /-- Whether a simple key may start here. -/
  keyAllowed : Bool
  /-- One place for a candidate per level of brackets, innermost first, and one outside. -/
  candidates : List (Option Candidate)
  /-- The tokens so far, in reverse. -/
  tokens : List Token

/-- The scanner at the start of a text. -/
def Scanner.start (cs : List Char) : Scanner :=
  ⟨⟨Mark.start, cs⟩, -1, [], true, [none], []⟩

namespace Scanner

/-- The place reached so far. -/
def mark (s : Scanner) : Mark := s.cursor.mark

/-- Whether the scanner is inside brackets. -/
def inFlow (s : Scanner) : Bool := 1 < s.candidates.length

/-- Adds a token. -/
def push (kind : TokenKind) (start stop : Mark) (s : Scanner) : Scanner :=
  { s with tokens := ⟨kind, start, stop⟩ :: s.tokens }

/-- Adds a token in front of the tokens from `position` on. -/
def insert (position : Nat) (kind : TokenKind) (mark : Mark) (s : Scanner) : Scanner :=
  let behind := s.tokens.length - position
  { s with
    tokens := s.tokens.take behind ++ ⟨kind, mark, mark⟩ :: s.tokens.drop behind }

/-- Takes a token of `n` characters that consists of signs only. -/
def sign (kind : TokenKind) (n : Nat) (s : Scanner) : Scanner :=
  let behind := s.cursor.forward n
  { s.push kind s.mark behind.mark with cursor := behind }

/-! ## Indentation -/

/-- Closes the blocks that lie to the right of a column. -/
def closeBlocks (column : Int) (s : Scanner) : Scanner :=
  if s.inFlow then s
  else
    let rec go (indent : Int) (outer : List Int) (tokens : List Token) : Scanner :=
      if column < indent then
        match outer with
        | next :: outer => go next outer (⟨.blockEnd, s.mark, s.mark⟩ :: tokens)
        | [] => { s with indent := indent, outer := [], tokens := tokens }
      else { s with indent := indent, outer := outer, tokens := tokens }
    go s.indent s.outer s.tokens

/-- Opens a block at a column if it lies to the right of the present block. The token goes in front
of the tokens from `position` on, or to the end. -/
def openBlock (column : Int) (position : Option Nat) (kind : TokenKind) (mark : Mark)
    (s : Scanner) : Scanner :=
  if s.inFlow || column ≤ s.indent then s
  else
    let s := { s with indent := column, outer := s.indent :: s.outer }
    match position with
    | some p => s.insert p kind mark
    | none => s.push kind mark mark

/-! ## Simple keys -/

/-- Forgets the candidate of the present level; malformed if it had to be a key. -/
def dropCandidate (s : Scanner) : Option Scanner :=
  match s.candidates with
  | some c :: rest => if c.required then none else some { s with candidates := none :: rest }
  | _ => some s

/-- Makes the token that starts here a candidate, where one is allowed. -/
def saveCandidate (s : Scanner) : Option Scanner :=
  if !s.keyAllowed then some s
  else
    let c : Candidate :=
      ⟨!s.inFlow && s.indent == s.mark.column, s.tokens.length, s.mark⟩
    s.dropCandidate.map fun s =>
      match s.candidates with
      | _ :: rest => { s with candidates := some c :: rest }
      | [] => s

/-- How far a simple key may reach. -/
def maxKeyLength : Nat := 1024

/-- Forgets the candidates that lie on an earlier line or too far back; malformed if one of them had
to be a key. -/
def dropStale (s : Scanner) : Option Scanner :=
  let check : Option Candidate → Option (Option Candidate)
    | none => some none
    | some c =>
      if c.mark.line < s.mark.line || c.mark.index + maxKeyLength < s.mark.index then
        if c.required then none else some none
      else some (some c)
  (s.candidates.mapM check).map fun cs => { s with candidates := cs }

/-! ## Scanning -/

/-- Skips blanks, comments and line ends up to the next token. Tabs count as blanks only where no
simple key may start. -/
def skipGaps : (fuel : Nat) → Scanner → Scanner
  | 0, s => s
  | fuel + 1, s =>
    let tabs := s.inFlow || !s.keyAllowed
    let c := (s.cursor.skip fun ch => ch = ' ' || (tabs && ch = '\t')).skipComment
    match c.lineBreak? with
    | some (_, c) =>
      skipGaps fuel { s with cursor := c, keyAllowed := s.keyAllowed || !s.inFlow }
    | none => { s with cursor := c }

/-- The byte order mark, which may stand at the very start. -/
def byteOrderMark : Char := Char.ofNat 0xFEFF

/-- Skips everything up to the next token. -/
def toNext (s : Scanner) : Scanner :=
  let s :=
    if s.mark.index = 0 && s.cursor.rest.head? = some byteOrderMark then
      { s with cursor := s.cursor.forward 1 }
    else s
  s.skipGaps (s.cursor.rest.length + 1)

/-- Ends all blocks where a document or its directives start or end. -/
def leaveBlocks (s : Scanner) : Option Scanner :=
  (s.closeBlocks (-1)).dropCandidate.map fun s => { s with keyAllowed := false }

/-- The end of the text, which counts as the start of a line. -/
def finish (s : Scanner) : Option Scanner :=
  let m := s.mark
  let m := if m.column = 0 then m else ⟨m.index, m.line + 1, 0⟩
  let s := { s with cursor := ⟨m, s.cursor.rest⟩ }
  s.leaveBlocks.map fun s => s.push .streamEnd m m

/-- The sign that starts or ends a document. -/
def documentSign (kind : TokenKind) (s : Scanner) : Option Scanner :=
  s.leaveBlocks.map (·.sign kind 3)

/-- An opening bracket. -/
def openFlow (kind : TokenKind) (s : Scanner) : Option Scanner :=
  s.saveCandidate.map fun s =>
    { s with candidates := none :: s.candidates, keyAllowed := true }.sign kind 1

/-- A closing bracket. -/
def closeFlow (kind : TokenKind) (s : Scanner) : Option Scanner :=
  s.dropCandidate.map fun s =>
    let candidates := match s.candidates with
      | _ :: c :: rest => c :: rest
      | cs => cs
    { s with candidates := candidates, keyAllowed := false }.sign kind 1

/-- A comma inside brackets. -/
def flowEntry (s : Scanner) : Option Scanner :=
  s.dropCandidate.map fun s => { s with keyAllowed := true }.sign .flowEntry 1

/-- The sign of an entry of a block sequence. -/
def blockEntry (s : Scanner) : Option Scanner :=
  if !s.inFlow && !s.keyAllowed then none
  else
    (s.openBlock s.mark.column none .blockSequence s.mark).dropCandidate.map fun s =>
      { s with keyAllowed := true }.sign .blockEntry 1

/-- The sign of a key. -/
def key (s : Scanner) : Option Scanner :=
  if !s.inFlow && !s.keyAllowed then none
  else
    (s.openBlock s.mark.column none .blockMapping s.mark).dropCandidate.map fun s =>
      { s with keyAllowed := !s.inFlow }.sign .key 1

/-- The sign of a value; it makes the candidate a key. -/
def value (s : Scanner) : Option Scanner :=
  match s.candidates with
  | some c :: rest =>
    let s := (s.insert c.position .key c.mark).openBlock c.mark.column (some c.position)
      .blockMapping c.mark
    some ({ s with candidates := none :: rest, keyAllowed := false }.sign .value 1)
  | _ =>
    if !s.inFlow && !s.keyAllowed then none
    else
      let s := s.openBlock s.mark.column none .blockMapping s.mark
      some ({ s with keyAllowed := !s.inFlow }.sign .value 1)

/-- What may follow the name of an anchor or alias. -/
def endsAnchor : List Char → Bool
  | [] => true
  | c :: _ => isGap c || ['?', ':', ',', ']', '\x7d', '%', '@', '\x60'].contains c

/-- An anchor or an alias. -/
def anchor (kind : List Char → TokenKind) (s : Scanner) : Option Scanner :=
  s.saveCandidate.bind fun s =>
    let (name, behind) := (s.cursor.forward 1).run isWordChar
    if name.isEmpty || !endsAnchor behind.rest then none
    else some { s.push (kind name) s.mark behind.mark with cursor := behind, keyAllowed := false }

/-- Characters of a tag; brackets and commas only in a tag that is written out. -/
def isTagChar (whole : Bool) (c : Char) : Bool :=
  isWordChar c ||
    [';', '/', '?', ':', '@', '&', '=', '+', '$', '.', '!', '~', '*', '\'', '(', ')'].contains c ||
    (whole && [',', '[', ']'].contains c)

/-- The bytes of escapes such as `%C3%A9` up to a bound, and what follows them. -/
def escapedBytes : (count : Nat) → List Char → Option (List Nat × List Char)
  | 0, cs => some ([], cs)
  | count + 1, '%' :: a :: b :: rest =>
    (Numeral.valueOf 16 [a, b]).bind fun n =>
      (escapedBytes count rest).map fun (ns, rest) => (n :: ns, rest)
  | _, _ => none

/-- The character that starts with an escape: the first byte says how many follow. -/
def escapedChar? (cs : List Char) : Option (Char × Nat × List Char) :=
  (escapedBytes 1 cs).bind fun (first, _) =>
    let lead := first.headD 0
    let width :=
      if lead < 0x80 then 1
      else if lead / 0x20 = 6 then 2
      else if lead / 0x10 = 14 then 3
      else if lead / 8 = 30 then 4
      else 0
    if width = 0 then none
    else
      (escapedBytes width cs).bind fun (bytes, rest) =>
        (String.fromUTF8? (ByteArray.mk (bytes.map UInt8.ofNat).toArray)).bind fun s =>
          s.toList.head?.map fun c => (c, 3 * width, rest)

/-- A run of characters of a tag with escapes decoded, how many characters it takes, and what
follows. -/
def tagText (whole : Bool) : (fuel : Nat) → List Char → Option (List Char × Nat × List Char)
  | 0, cs => some ([], 0, cs)
  | _, [] => some ([], 0, [])
  | fuel + 1, c :: rest =>
    if c = '%' then
      (escapedChar? (c :: rest)).bind fun (ch, n, rest) =>
        (tagText whole fuel rest).map fun (text, m, rest) => (ch :: text, n + m, rest)
    else if isTagChar whole c then
      (tagText whole fuel rest).map fun (text, m, rest) => (c :: text, m + 1, rest)
    else some ([], 0, c :: rest)

/-- The handle of a tag: an exclamation mark, and possibly a word with another one behind it. -/
def tagHandle? (c : Cursor) : Option (List Char × Cursor) :=
  match c.rest with
  | '!' :: _ =>
    let (word, behind) := (c.forward 1).run isWordChar
    match behind.rest with
    | '!' :: _ => some ('!' :: (word ++ ['!']), behind.forward 1)
    | _ => some ('!' :: word, behind)
  | _ => none

/-- The handle and the suffix of a tag, and the cursor behind it. A tag without handle of its own
has the handle `!`; the lone `!` is a tag by itself. -/
def tagParts? (c : Cursor) : Option (List Char × List Char × Cursor) :=
  let fuel := c.rest.length
  match c.rest with
  | '!' :: '<' :: rest =>
    (tagText true fuel rest).bind fun (text, n, rest) =>
      match rest with
      | '>' :: rest =>
        if text.isEmpty then none else some ([], text, ⟨c.mark.forward (n + 3), rest⟩)
      | _ => none
  | _ =>
    (tagHandle? c).bind fun (handle, behind) =>
      (tagText false fuel behind.rest).bind fun (text, n, rest) =>
        let behind : Cursor := ⟨behind.mark.forward n, rest⟩
        if 1 < handle.length && handle.getLast? = some '!' then
          if text.isEmpty then none else some (handle, text, behind)
        else
          let suffix := handle.drop 1 ++ text
          if suffix.isEmpty then some ([], ['!'], behind) else some (['!'], suffix, behind)

/-- A tag. Inside brackets it may be followed by a comma at once. -/
def tag (s : Scanner) : Option Scanner :=
  s.saveCandidate.bind fun s =>
    (tagParts? s.cursor).bind fun (handle, suffix, behind) =>
      if atGap behind.rest || (s.inFlow && behind.rest.head? = some ',') then
        some { s.push (.tag handle suffix) s.mark behind.mark with
          cursor := behind, keyAllowed := false }
      else none

/-- The digits of a version number; there may be nine of them. -/
def versionNumber? (c : Cursor) : Option (Nat × Cursor) :=
  let (digits, behind) := c.run Numeral.isDigit
  if 9 < digits.length then none
  else (Numeral.valueOf 10 digits).map fun n => (n, behind)

/-- The value of a version directive. -/
def versionDirective? (c : Cursor) : Option (TokenKind × Cursor) :=
  (versionNumber? (c.skip isBlank)).bind fun (major, c) =>
    match c.rest with
    | '.' :: _ =>
      (versionNumber? (c.forward 1)).map fun (minor, c) => (.version major minor, c)
    | _ => none

/-- The value of a directive that declares a tag handle. -/
def handleDirective? (c : Cursor) : Option (TokenKind × Cursor) :=
  (tagHandle? (c.skip isBlank)).bind fun (handle, c) =>
    if handle ≠ ['!'] && (handle.length < 2 || handle.getLast? ≠ some '!') then none
    else if !(c.rest.head?.any isBlank) then none
    else
      let c := c.skip isBlank
      (tagText true c.rest.length c.rest).bind fun (text, n, rest) =>
        if text.isEmpty || !atGap rest then none
        else some (.tagHandle handle text, ⟨c.mark.forward n, rest⟩)

/-- A directive with the rest of its line. -/
def directive (s : Scanner) : Option Scanner :=
  s.leaveBlocks.bind fun s =>
    let (name, c) := (s.cursor.forward 1).run isWordChar
    if name.isEmpty || !atGap c.rest then none
    else
      let parsed :=
        if name = ['Y', 'A', 'M', 'L'] then versionDirective? c
        else if name = ['T', 'A', 'G'] then handleDirective? c
        else none
      parsed.bind fun (kind, c) =>
        let behind := (c.skip isBlank).skipComment
        if !atLineEnd behind.rest then none
        else some { s.push kind s.mark c.mark with cursor := behind.skipBreak }

/-- A block scalar. -/
def block (literal : Bool) (s : Scanner) : Option Scanner :=
  s.dropCandidate.bind fun s =>
    (readBlock literal s.indent s.cursor).map fun (text, behind) =>
      let style := if literal then Style.literal else Style.folded
      { s.push (.scalar style text) s.mark behind.mark with
        cursor := behind, keyAllowed := true }

/-- A quoted scalar. -/
def quoted (single : Bool) (s : Scanner) : Option Scanner :=
  s.saveCandidate.bind fun s =>
    (readQuoted single s.cursor).map fun (text, behind) =>
      { s.push (.scalar .quoted text) s.mark behind.mark with
        cursor := behind, keyAllowed := false }

/-- A plain scalar; if it ends behind a line end, a simple key may follow. -/
def plain (s : Scanner) : Option Scanner :=
  s.saveCandidate.bind fun s =>
    (readPlain s.inFlow (s.indent + 1) s.cursor).map fun (text, broken, behind) =>
      { s.push (.scalar .plain text) s.mark behind.mark with
        cursor := behind, keyAllowed := broken }

/-- Characters that cannot start a plain scalar by themselves. -/
def isIndicator (c : Char) : Bool :=
  ['-', '?', ':', ',', '[', ']', '\x7b', '\x7d', '#', '&', '*', '!', '|', '>', '\'', '"', '%', '@',
    '\x60'].contains c

/-- Whether a plain scalar starts here. -/
def startsPlain (inFlow : Bool) (c : Char) (rest : List Char) : Bool :=
  (!isGap c && !isIndicator c) || (c = '-' && !(rest.head?.any isBlank))
    || (!inFlow && (c = '?' || c = ':') && !atGap rest)

/-- The next token. -/
def next (s : Scanner) : Option Scanner :=
  s.toNext.dropStale.bind fun s =>
    let s := s.closeBlocks s.mark.column
    let c := s.cursor
    match c.rest with
    | [] => s.finish
    | ch :: rest =>
      if s.mark.column = 0 && ch = '%' then s.directive
      else if c.atMarker '-' then s.documentSign .documentStart
      else if c.atMarker '.' then s.documentSign .documentEnd
      else if ch = '[' then s.openFlow .flowSequence
      else if ch = '\x7b' then s.openFlow .flowMapping
      else if ch = ']' then s.closeFlow .flowSequenceEnd
      else if ch = '\x7d' then s.closeFlow .flowMappingEnd
      else if ch = ',' then s.flowEntry
      else if ch = '-' && atGap rest then s.blockEntry
      else if ch = '?' && (s.inFlow || atGap rest) then s.key
      else if ch = ':' && (s.inFlow || atGap rest) then s.value
      else if ch = '*' then s.anchor .alias
      else if ch = '&' then s.anchor .anchor
      else if ch = '!' then s.tag
      else if ch = '|' && !s.inFlow then s.block true
      else if ch = '>' && !s.inFlow then s.block false
      else if ch = '\'' then s.quoted true
      else if ch = '"' then s.quoted false
      else if startsPlain s.inFlow ch rest then s.plain
      else none

/-- All tokens up to the end of the text. -/
def all : (fuel : Nat) → Scanner → Option (List Token)
  | 0, _ => none
  | fuel + 1, s =>
    s.next.bind fun s =>
      match s.tokens with
      | ⟨.streamEnd, _, _⟩ :: _ => some s.tokens.reverse
      | _ => all fuel s

end Scanner

/-- All tokens of a text. Every token but the last uses up a character. -/
def scan (text : String) : Option (List Token) :=
  let cs := text.toList
  if cs.all isAllowed then (Scanner.start cs).all (cs.length + 2) else none

end Token

end Docket.Yaml
