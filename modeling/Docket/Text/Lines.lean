import Docket.Text.Class

/-!
# Trimming, splitting and lines

Operations on the characters of a text that several parts of the library share.

## Trimming

`trim` removes white space on both sides.

## Splitting

`splitOnce` cuts at the first place where a character class holds, `splitAll` at every one.

## Lines

`lines` cuts a text into its lines; a line ends with a line feed, or with a carriage return and a
line feed, and an empty last line does not count.
-/

namespace Docket.Text

/-! ## Trimming -/

/-- Text without a run of characters at its end. -/
def dropEndWhile (p : Char → Bool) (cs : List Char) : List Char :=
  (cs.reverse.dropWhile p).reverse

/-- Text without white space at its start. -/
def trimStart (cs : List Char) : List Char := cs.dropWhile isBlank

/-- Text without white space at its end. -/
def trimEnd (cs : List Char) : List Char := dropEndWhile isBlank cs

/-- Text without white space on either side. -/
def trim (cs : List Char) : List Char := trimEnd (trimStart cs)

/-- A text without white space on either side. -/
def trimmed (s : String) : String := String.ofList (trim s.toList)

/-- Whether a text is nothing but white space. -/
def allBlank (s : String) : Bool := s.toList.all isBlank

/-! ## Splitting -/

/-- What stands before and after the first character of a class, if there is one. -/
def splitOnce (p : Char → Bool) : List Char → Option (List Char × List Char)
  | [] => none
  | c :: cs =>
    if p c then some ([], cs)
    else (splitOnce p cs).map fun (before, after) => (c :: before, after)

/-- The pieces between the characters of a class; there is always at least one piece. -/
def splitAll (p : Char → Bool) : List Char → List (List Char)
  | [] => [[]]
  | c :: cs =>
    if p c then [] :: splitAll p cs
    else
      match splitAll p cs with
      | piece :: rest => (c :: piece) :: rest
      | [] => [[c]]

/-- What follows `start` in a text that begins with it. -/
def dropStart? : List Char → List Char → Option (List Char)
  | [], cs => some cs
  | _ :: _, [] => none
  | s :: ss, c :: cs => if s = c then dropStart? ss cs else none

/-! ## Lines -/

/-- A line that was ended by a line feed, without a carriage return at its end. -/
def dropReturn (line : List Char) : List Char :=
  match line.reverse with
  | '\r' :: rest => rest.reverse
  | _ => line

/-- The lines of a text. -/
def lines (cs : List Char) : List (List Char) :=
  match (splitAll (· == '\n') cs).reverse with
  | [] => []
  | last :: ended =>
    let finished := ended.reverse.map dropReturn
    if last.isEmpty then finished else finished ++ [last]

end Docket.Text
