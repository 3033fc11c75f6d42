import Docket.Text.Class

/-!
# Quoted text in messages

A text in a message stands between double quotes, with everything that would not show itself
escaped.
-/

namespace Docket.Text

/-- Lower case hexadecimal digits. -/
def hexDigits (n : Nat) : List Char := Nat.toDigits 16 n

/-- One character between double quotes. -/
def quoteChar (c : Char) : List Char :=
  match c.toNat with
  | 0 => ['\\', '0']
  | 9 => ['\\', 't']
  | 10 => ['\\', 'n']
  | 13 => ['\\', 'r']
  | 34 => ['\\', '"']
  | 92 => ['\\', '\\']
  | n =>
    if isPrintable c then [c]
    else ['\\', 'u', '\x7b'] ++ hexDigits n ++ ['\x7d']

/-- Text between double quotes. -/
def quoted (s : String) : String :=
  String.ofList ('"' :: (s.toList.flatMap quoteChar ++ ['"']))

end Docket.Text
