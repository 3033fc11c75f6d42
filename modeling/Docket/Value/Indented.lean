import Docket.Value.Print

/-!
# Values over several lines

`Value.indented` writes every item of a list and every entry of a map on a line of its own, two
blanks deeper than the list or map. Lists and maps without content stay on one line.
-/

namespace Docket.Value

/-- A new line at a given depth. -/
def newLine (depth : Nat) : List Char := '\n' :: List.replicate (2 * depth) ' '

mutual

/-- A value whose first line has been begun at a given depth. -/
def indentedChars (depth : Nat) : Value → List Char
  | list (v :: rest) =>
    '[' :: (indentedItems (depth + 1) (v :: rest) ++ newLine depth ++ [']'])
  | map (e :: rest) =>
    '\x7b' :: (indentedEntries (depth + 1) (e :: rest) ++ newLine depth ++ ['\x7d'])
  | v => v.compactChars

/-- Items, each on a new line. -/
def indentedItems (depth : Nat) : List Value → List Char
  | [] => []
  | [v] => newLine depth ++ indentedChars depth v
  | v :: rest => newLine depth ++ indentedChars depth v ++ ',' :: indentedItems depth rest

/-- Entries, each on a new line. -/
def indentedEntries (depth : Nat) : List (String × Value) → List Char
  | [] => []
  | [(k, v)] => newLine depth ++ escaped k ++ ':' :: ' ' :: indentedChars depth v
  | (k, v) :: rest =>
    newLine depth ++ escaped k ++ ':' :: ' ' :: indentedChars depth v
      ++ ',' :: indentedEntries depth rest

end

/-- A value over several lines. -/
def indented (v : Value) : String := String.ofList (indentedChars 0 v)

end Docket.Value
