import Docket.Value.Basic

/-!
# The text of a value

`Value.compact` is the one-line notation of data: no blanks, keys in order, and in texts only
quotes, backslashes and the controls below the blank are escaped. `Value.display` is what a template
prints: a text stands for itself, null for nothing, everything else is written compactly.
-/

namespace Docket.Value

/-- A code point as four lower case hexadecimal digits. -/
def hexFour (n : Nat) : List Char :=
  let ds := Nat.toDigits 16 n
  List.replicate (4 - ds.length) '0' ++ ds

/-- One character of a text between quotes. -/
def escapeChar (c : Char) : List Char :=
  match c.toNat with
  | 34 => ['\\', '"']
  | 92 => ['\\', '\\']
  | 8 => ['\\', 'b']
  | 9 => ['\\', 't']
  | 10 => ['\\', 'n']
  | 12 => ['\\', 'f']
  | 13 => ['\\', 'r']
  | n => if n < 32 then ['\\', 'u'] ++ hexFour n else [c]

/-- A text between quotes. -/
def escaped (s : String) : List Char := '"' :: (s.toList.flatMap escapeChar ++ ['"'])

mutual

/-- A value in compact notation. -/
def compactChars : Value → List Char
  | null => ['n', 'u', 'l', 'l']
  | bool true => ['t', 'r', 'u', 'e']
  | bool false => ['f', 'a', 'l', 's', 'e']
  | number n => n.chars
  | text s => escaped s
  | list items => '[' :: (compactItems items ++ [']'])
  | map entries => '\x7b' :: (compactEntries entries ++ ['\x7d'])

/-- The items of a list with commas between them. -/
def compactItems : List Value → List Char
  | [] => []
  | [v] => compactChars v
  | v :: rest => compactChars v ++ ',' :: compactItems rest

/-- The entries of a map with commas between them. -/
def compactEntries : List (String × Value) → List Char
  | [] => []
  | [(k, v)] => escaped k ++ ':' :: compactChars v
  | (k, v) :: rest => escaped k ++ ':' :: (compactChars v ++ ',' :: compactEntries rest)

end

/-- A value in compact notation. -/
def compact (v : Value) : String := String.ofList (compactChars v)

/-- A value as a template prints it. -/
def display : Value → String
  | null => ""
  | text s => s
  | v => v.compact

end Docket.Value
