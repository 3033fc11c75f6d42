import Docket.Error
import Docket.Filter.Basic
import Docket.Filter.Casing
import Docket.Filter.Inflection
import Docket.Text.Case
import Docket.Value.Print

/-!
# Applying filters

`Filter.apply` computes what a filter makes of a value. Text filters work on the displayed text of
scalars and refuse lists and maps; the others ask for the types they can deal with.
-/

namespace Docket.Filter

/-- The error for a value of the wrong type. -/
def mismatch {α : Type} (path expected : String) (found : Value) : Except Error α :=
  .error (.typeMismatch path expected found.kind)

/-- Applies a text function to the displayed text of a scalar. -/
def onText (path : String) (f : List Char → List Char) (v : Value) : Except Error Value :=
  match v with
  | .list _ | .map _ => mismatch path "string" v
  | v => .ok (.text (String.ofList (f v.display.toList)))

/-- A capital first character, all others small. -/
def capitalizeChars : List Char → List Char
  | [] => []
  | c :: cs => Text.upperChar c ++ cs.flatMap Text.lowerChar

/-- The number of items, entries or characters. -/
def lengthOf (path : String) : Value → Except Error Value
  | .text s => .ok (.number (.whole s.length))
  | .list items => .ok (.number (.whole items.length))
  | .map entries => .ok (.number (.whole entries.length))
  | v => mismatch path "string, list or map" v

/-- The one picked from the items or the characters, null if there is none. -/
def pick (path : String) (ofItems : List Value → Option Value) (ofChars : List Char → Option Char) :
    Value → Except Error Value
  | .list items => .ok ((ofItems items).getD .null)
  | .text s => .ok (((ofChars s.toList).map fun c => .text (String.singleton c)).getD .null)
  | v => mismatch path "list or string" v

/-- The separator of `join` without argument. -/
def joinDefault : String := ", "

/-- The displayed items of a list with a separator between them. -/
def joined (path : String) (separator : Option Value) : Value → Except Error Value
  | .list items =>
    let between := match separator with
      | some v => v.display
      | none => joinDefault
    .ok (.text (between.intercalate (items.map Value.display)))
  | v => mismatch path "list" v

/-- The argument in place of null and of the empty text. -/
def orDefault (fallback : Value) : Value → Value
  | .null => fallback
  | .text s => if s = "" then fallback else .text s
  | v => v

/-- What a filter makes of a value. The path is for messages. -/
def apply (f : Filter) (v : Value) (args : List Value) (path : String) : Except Error Value :=
  match f with
  | upper => onText path Text.upper v
  | lower => onText path Text.lower v
  | trim => onText path Text.trim v
  | capitalize => onText path capitalizeChars v
  | snakeCase => onText path Casing.snake v
  | kebabCase => onText path Casing.kebab v
  | camelCase => onText path Casing.camel v
  | pascalCase => onText path Casing.pascal v
  | screamingSnakeCase => onText path Casing.screamingSnake v
  | trainCase => onText path Casing.train v
  | plural => onText path (fun cs => (Inflection.plural (String.ofList cs)).toList) v
  | singular => onText path (fun cs => (Inflection.singular (String.ofList cs)).toList) v
  | length => lengthOf path v
  | first => pick path List.head? List.head? v
  | last => pick path List.getLast? List.getLast? v
  | join => joined path args.head? v
  | default => .ok (orDefault (args.head?.getD .null) v)

/-- What the filter with a given name makes of a value. -/
def applyNamed (name : String) (v : Value) (args : List Value) (path : String) :
    Except Error Value :=
  match ofName? name with
  | some f => f.apply v args path
  | none => .error (.unknownFilter name)

end Docket.Filter
