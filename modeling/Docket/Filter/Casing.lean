import Docket.Text.Lines

/-!
# Identifier casing

Words of a text joined in the manner of identifiers. Which characters count as parts of words is
decided by Unicode, the letters themselves are changed within ASCII only.

## Separated words

`separated` writes words with a separator between them: `snake_case`, `kebab-case`.

## Capitalized words

`capitalized` runs words together, each with a capital: `camelCase`, `PascalCase`, `Train-Case`.
-/

namespace Docket.Casing

open Text (isAlphanumeric isNumeric isLower isUpper)

/-- Text without separators at its end. -/
def withoutTail (cs : List Char) : List Char :=
  Text.dropEndWhile (fun c => !isAlphanumeric c) cs

/-! ## Separated words -/

/-- Whether the character at a position is a small letter; positions outside the text are not. -/
def smallAt (cs : List Char) (position : Nat) : Bool := (cs[position]?).any isLower

/-- Writes the words of `rest` with a separator between them. A word ends at a run of separators,
and before a character without small form that has a small letter on either side of it. The two
neighbours are looked up in the `whole` text by the offset in bytes; `fresh` says that no character
of the present word has been written. -/
def separatedFrom (separator : Char) (letter : Char → Char) (whole : List Char) :
    (offset : Nat) → (fresh : Bool) → List Char → List Char
  | _, _, [] => []
  | offset, fresh, c :: rest =>
    let next := offset + c.utf8Size
    if !isAlphanumeric c then
      let tail := separatedFrom separator letter whole next true rest
      if fresh then tail else separator :: tail
    else
      let tail := letter c :: separatedFrom separator letter whole next false rest
      if !fresh && c.toUpper = c && (smallAt whole (offset + 1) || smallAt whole (offset - 1)) then
        separator :: tail
      else tail

/-- The words of a text with a separator between them. -/
def separated (separator : Char) (letter : Char → Char) (cs : List Char) : List Char :=
  separatedFrom separator letter cs 0 true (withoutTail cs)

/-- Words in small letters with underscores: `snake_case`. -/
def snake (cs : List Char) : List Char := separated '_' Char.toLower cs

/-- Words in small letters with hyphens: `kebab-case`. -/
def kebab (cs : List Char) : List Char := separated '-' Char.toLower cs

/-- Words in capitals with underscores: `SCREAMING_SNAKE_CASE`. -/
def screamingSnake (cs : List Char) : List Char := separated '_' Char.toUpper cs

/-! ## Capitalized words -/

/-- How words are run together. -/
structure Joining where
  /-- Whether the first word starts with a capital, too. -/
  capitalFirst : Bool
  /-- What stands before every capitalized word but the first. -/
  between : List Char

/-- What has been seen of the text so far. -/
structure Progress where
  /-- The next letter starts a word. -/
  newWord : Bool
  /-- No capitalized word has been written. -/
  firstWord : Bool
  /-- A part of a word has been written. -/
  started : Bool
  /-- The last letter that continued a word. -/
  last : Char

/-- Writes words with capitals. A word starts after separators, after a number, and at a capital
after a small letter. -/
def capitalizedFrom (between : List Char) : Progress → List Char → List Char
  | _, [] => []
  | p, c :: rest =>
    if !isAlphanumeric c then
      capitalizedFrom between (if p.started then { p with newWord := true } else p) rest
    else if isNumeric c then
      c :: capitalizedFrom between { p with newWord := true, started := true } rest
    else if p.newWord || (isLower p.last && isUpper c) then
      let tail :=
        c.toUpper ::
          capitalizedFrom between { p with newWord := false, firstWord := false, started := true }
            rest
      if p.firstWord then tail else between ++ tail
    else c.toLower :: capitalizedFrom between { p with started := true, last := c } rest

/-- The words of a text run together. -/
def capitalized (j : Joining) (cs : List Char) : List Char :=
  capitalizedFrom j.between ⟨j.capitalFirst, true, false, ' '⟩ (withoutTail cs)

/-- Words run together, the first one small: `camelCase`. -/
def camel (cs : List Char) : List Char := capitalized ⟨false, []⟩ cs

/-- Words run together, all with a capital: `PascalCase`. -/
def pascal (cs : List Char) : List Char := capitalized ⟨true, []⟩ cs

/-- Capitalized words with hyphens: `Train-Case`. -/
def train (cs : List Char) : List Char := capitalized ⟨true, ['-']⟩ cs

end Docket.Casing
