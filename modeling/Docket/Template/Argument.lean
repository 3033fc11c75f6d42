import Docket.Number.Basic
import Docket.Text.Lines
import Docket.Value.Basic

/-!
# Arguments of filters

## Splitting

`splitOutsideQuotes` cuts at a separator wherever it stands outside quotes. A quote of either kind
runs to the next quote of its kind, or to the end.

## Reading

`readArgument` reads a quoted text, a constant, a number, or, if nothing else fits, bare text.
-/

namespace Docket.Template

/-! ## Splitting -/

/-- Whether a character opens a quote. -/
def isQuote (c : Char) : Bool := c = '"' || c = '\''

/-- The quote that is open after a character. -/
def quoteAfter (quote : Option Char) (c : Char) : Option Char :=
  match quote with
  | some q => if c = q then none else some q
  | none => if isQuote c then some c else none

/-- The pieces of a text between the separators outside quotes, given the quote that is open at its
start. There is always at least one piece. -/
def splitFrom (separator : Char) : Option Char → List Char → List (List Char)
  | _, [] => [[]]
  | quote, c :: cs =>
    if quote.isNone && !isQuote c && c = separator then [] :: splitFrom separator none cs
    else
      match splitFrom separator (quoteAfter quote c) cs with
      | piece :: rest => (c :: piece) :: rest
      | [] => [[c]]

/-- The pieces of a text between the separators outside quotes. -/
def splitOutsideQuotes (separator : Char) (cs : List Char) : List (List Char) :=
  splitFrom separator none cs

/-! ## Reading -/

/-- The text between two equal quotes that stand at both ends. -/
def unquoted? (cs : List Char) : Option (List Char) :=
  match cs with
  | q :: rest =>
    match rest.reverse with
    | r :: inner => if isQuote q && r = q then some inner.reverse else none
    | [] => none
  | [] => none

/-- The finite double that a text denotes. -/
def double? (cs : List Char) : Option Double :=
  (Numeral.decimal? cs).bind fun d =>
    let v := Double.ofDecimal d.negative d.digits d.power
    if v.isFinite then some v else none

/-- The value of an argument as it is written. Whole numbers are read in the signed 64-bit range;
larger ones are doubles. -/
def readArgument (raw : List Char) : Value :=
  let cs := Text.trim raw
  match unquoted? cs with
  | some inner => .text (String.ofList inner)
  | none =>
    if cs = ['t', 'r', 'u', 'e'] then .bool true
    else if cs = ['f', 'a', 'l', 's', 'e'] then .bool false
    else if cs = ['n', 'u', 'l', 'l'] then .null
    else
      match Numeral.signed? cs with
      | some n => .number (.whole n)
      | none =>
        match double? cs with
        | some d => .number (.double d)
        | none => .text (String.ofList cs)

end Docket.Template
