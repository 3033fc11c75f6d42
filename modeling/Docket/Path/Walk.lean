import Docket.Path.Basic
import Docket.Value.Basic

/-!
# Following a path

`Value.walk` goes down from a value, step by step. A position selects an item of a list and, in a
map, the entry whose key is the position in digits.
-/

namespace Docket.Value

/-- One step down. -/
def step (v : Value) : Segment → Option Value
  | .key name => v.get? name
  | .index position =>
    match v with
    | .list items => items[position]?
    | .map entries => lookup (String.ofList (Numeral.digitsOf position)) entries
    | _ => none

/-- All steps down, in order. -/
def walk (v : Value) : List Segment → Option Value
  | [] => some v
  | s :: rest => (v.step s).bind (walk · rest)

end Docket.Value
