import Docket.Number.Basic

/-!
# Data values

The trees of data that templates are evaluated against: null, booleans, numbers, texts, lists, maps.

## Maps

A map is kept as its entries. `Value.settled` brings every map of a tree into the form that all
other operations expect: keys in increasing order, each once, with the value that was given last.

## Questions

`Value.kind` names the type of a value for messages, `Value.isTruthy` is its truth in a condition.
-/

namespace Docket

/-- A tree of data. -/
inductive Value where
  | null
  | bool (b : Bool)
  | number (n : Number)
  | text (s : String)
  | list (items : List Value)
  | map (entries : List (String × Value))
deriving Inhabited

namespace Value

/-! ## Maps -/

/-- Sets a key in entries with increasing keys. -/
def setKey (key : String) (value : Value) : List (String × Value) → List (String × Value)
  | [] => [(key, value)]
  | (k, v) :: rest =>
    if key < k then (key, value) :: (k, v) :: rest
    else if key = k then (key, value) :: rest
    else (k, v) :: setKey key value rest

/-- Entries in increasing order of their keys; of a repeated key the last value stays. -/
def sortEntries (entries : List (String × Value)) : List (String × Value) :=
  entries.foldl (fun acc (k, v) => setKey k v acc) []

/-- The map with these entries, given in any order. -/
def mapOf (entries : List (String × Value)) : Value := map (sortEntries entries)

mutual

/-- The same tree with the entries of every map in order and each key once. -/
def settled : Value → Value
  | list items => list (settledItems items)
  | map entries => mapOf (settledEntries entries)
  | v => v

/-- The items of a list, each settled. -/
def settledItems : List Value → List Value
  | [] => []
  | v :: rest => settled v :: settledItems rest

/-- The entries of a map with settled values, in the order they were given. -/
def settledEntries : List (String × Value) → List (String × Value)
  | [] => []
  | (k, v) :: rest => (k, settled v) :: settledEntries rest

end

/-- The value under a key. -/
def lookup (key : String) (entries : List (String × Value)) : Option Value :=
  match entries with
  | [] => none
  | (k, v) :: rest => if key = k then some v else lookup key rest

/-- The value under a key of a map; other values have no keys. -/
def get? (v : Value) (key : String) : Option Value :=
  match v with
  | map entries => lookup key entries
  | _ => none

/-! ## Questions -/

/-- The name of a value's type in messages. -/
def kind : Value → String
  | null => "null"
  | bool _ => "boolean"
  | number _ => "number"
  | text _ => "string"
  | list _ => "list"
  | map _ => "map"

/-- Null, false, the empty text and the empty list are false; numbers and maps are always true. -/
def isTruthy : Value → Bool
  | null => false
  | bool b => b
  | text s => s ≠ ""
  | list items => !items.isEmpty
  | number _ | map _ => true

end Value

end Docket
