import Docket.Number.Shortest

/-!
# Numbers of the data

A number of the data is a whole number of the 64-bit ranges or a finite double. Which of the two it
is shows in its text, so `1` and `1.0` are different numbers.
-/

namespace Docket

/-- A number as data holds it. -/
inductive Number where
  | whole (n : Int)
  | double (d : Double)
deriving DecidableEq, Inhabited

namespace Number

/-- The text of a number in data. -/
def chars : Number → List Char
  | whole n => Numeral.wholeText n
  | double d => Layout.data.text d

/-- The text of a number in data. -/
def text (n : Number) : String := String.ofList n.chars

end Number

end Docket
