import Docket.Text.Table.Alphabetic
import Docket.Text.Table.Numeric
import Docket.Text.Table.Joiners
import Docket.Text.Table.Cases
import Docket.Text.Table.CaseContext
import Docket.Text.Table.Printable

/-!
# Classes of characters

Every class here is the one of the Unicode standard and covers all characters, not only ASCII. The
tables themselves are data; this module gives the classes their names.
-/

namespace Docket.Text

/-- White space: the controls from tab to carriage return, the blanks, the line separators. -/
def isBlank (c : Char) : Bool :=
  inSpans
    [(9, 13, 1), (32, 32, 1), (133, 133, 1), (160, 160, 1), (5760, 5760, 1), (8192, 8202, 1),
     (8232, 8233, 1), (8239, 8239, 1), (8287, 8287, 1), (12288, 12288, 1)]
    c.toNat

/-- Letters and everything else that counts as alphabetic. -/
def isAlphabetic (c : Char) : Bool := inSpans Table.alphabetic c.toNat

/-- Digits and numbers of any script. -/
def isNumeric (c : Char) : Bool := inSpans Table.numeric c.toNat

/-- Alphabetic or numeric. -/
def isAlphanumeric (c : Char) : Bool := isAlphabetic c || isNumeric c

/-- Small letters. -/
def isLower (c : Char) : Bool := inSpans Table.lowercase c.toNat

/-- Capital letters. -/
def isUpper (c : Char) : Bool := inSpans Table.uppercase c.toNat

/-- Characters of a word: alphabetic ones, marks, digits, connectors. -/
def isWordChar (c : Char) : Bool :=
  isAlphabetic c || inSpans Table.joiners c.toNat

/-- Characters that have case, whichever it is. -/
def isCased (c : Char) : Bool := inSpans Table.cased c.toNat

/-- Characters that are passed over when looking for a cased neighbour. -/
def isCaseIgnorable (c : Char) : Bool := inSpans Table.caseIgnorable c.toNat

/-- Characters that quoted text shows as they are. -/
def isPrintable (c : Char) : Bool := inSpans Table.printable c.toNat

end Docket.Text
