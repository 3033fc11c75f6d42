import Docket.Template.Argument
import Docket.Template.Node

/-!
# Reading expressions

`path | filter | filter(arg, ...)`: the parts between bars outside quotes are the path and the
filters; the arguments of a filter stand between the first opening parenthesis and a closing one at
the end.
-/

namespace Docket.Template

/-- The text before a final closing parenthesis, white space behind it aside. -/
def beforeParenthesis? (cs : List Char) : Option (List Char) :=
  match (Text.trimEnd cs).reverse with
  | ')' :: inner => some inner.reverse
  | _ => none

/-- The name of a filter and its arguments; no result if the parentheses do not match. -/
def splitCall? (raw : List Char) : Option (List Char × List Value) :=
  match Text.splitOnce (· == '(') raw with
  | none => some (raw, [])
  | some (name, rest) =>
    (beforeParenthesis? rest).map fun inner =>
      (Text.trim name,
       if (Text.trim inner).isEmpty then [] else (splitOutsideQuotes ',' inner).map readArgument)

/-- Reads one filter. Errors show the whole `expression`, except that an unknown filter is named. -/
def readFilter (expression raw : List Char) : Except Error FilterCall :=
  let invalid : Except Error FilterCall := .error (.invalidExpression (String.ofList expression))
  match splitCall? (Text.trim raw) with
  | none => invalid
  | some (name, args) =>
    if name.isEmpty then invalid
    else
      match Filter.ofName? (String.ofList name) with
      | none => .error (.unknownFilter (String.ofList name))
      | some filter => if filter.accepts args.length then .ok ⟨filter, args⟩ else invalid

/-- Reads filters from left to right; the first error counts. -/
def readFilters (expression : List Char) : List (List Char) → Except Error (List FilterCall)
  | [] => .ok []
  | raw :: rest =>
    match readFilter expression raw with
    | .error e => .error e
    | .ok call =>
      match readFilters expression rest with
      | .error e => .error e
      | .ok calls => .ok (call :: calls)

/-- Reads the inside of an expression tag. -/
def readExpression (inner : List Char) : Except Error Expression :=
  match splitOutsideQuotes '|' inner with
  | [] => .error (.invalidExpression "")
  | path :: filters =>
    match Path.parse (String.ofList path) with
    | .error e => .error e
    | .ok p =>
      match readFilters inner filters with
      | .error e => .error e
      | .ok calls => .ok ⟨p, calls⟩

end Docket.Template
