import Docket.Value.Basic
import Docket.Yaml.Datum

/-!
# Reading documents into shapes

The readers that turn nodes into texts, booleans, lists and data. What goes wrong is told together
with the place: the path from the root and the start of the node that does not fit.

## Faults

`Fault.message` words a fault with its place.

## Readers

String fields take the text of any scalar as it is written; an empty plain scalar is an empty list
or map.
-/

namespace Docket.Yaml

/-! ## Faults -/

/-- A step from a node to a node below it. -/
inductive Step where
  | key (name : String)
  | index (position : Nat)
  /-- The value of a key that is no scalar. -/
  | other

/-- The way from the root to a node. -/
abbrev Way := List Step

/-- A way as messages show it; the root shows nothing. -/
def wayText (w : Way) : Option String :=
  w.foldl (fun before step =>
    let parent := match before with
      | some p => p ++ "."
      | none => ""
    match step with
    | .key name => some (parent ++ name)
    | .index i => some (before.getD "." ++ "[" ++ toString i ++ "]")
    | .other => some (parent ++ "?")) none

/-- A node does not have the shape that is asked for. -/
structure Fault where
  problem : String
  /-- Where the node is; some faults concern no single node. -/
  place : Option (Way × Mark)

namespace Fault

/-- A fault with its place. The very start of the text is not told. -/
def message (f : Fault) : String :=
  match f.place with
  | none => f.problem
  | some (way, mark) =>
    let text := match wayText way with
      | some w => w ++ ": " ++ f.problem
      | none => f.problem
    if mark.line = 0 && mark.column = 0 then text
    else
      text ++ " at line " ++ toString (mark.line + 1) ++ " column " ++ toString (mark.column + 1)

/-- The line of a fault, counted from one. -/
def line (f : Fault) : Nat :=
  match f.place with
  | some (_, mark) => mark.line + 1
  | none => 1

/-- Gives a fault without place the place of an enclosing node. -/
def within (way : Way) (mark : Mark) (f : Fault) : Fault :=
  match f.place with
  | some _ => f
  | none => { f with place := some (way, mark) }

end Fault

/-! ## Wording -/

/-- A name between back quotes. -/
def ticked (s : String) : String := "`" ++ s ++ "`"

/-- The names that a field or a variant may have. -/
def expectedNames (names : List String) : String :=
  match names with
  | [a] => "expected " ++ ticked a
  | [a, b] => "expected " ++ ticked a ++ " or " ++ ticked b
  | names => "expected one of " ++ ", ".intercalate (names.map ticked)

/-- A field that is missing. -/
def missingField (name : String) : String := "missing field " ++ ticked name

/-- A field that is given twice. -/
def duplicateField (name : String) : String := "duplicate field " ++ ticked name

/-- A field that does not exist. -/
def unknownField (name : String) (names : List String) : String :=
  "unknown field " ++ ticked name ++ ", " ++ expectedNames names

/-- A value of the wrong type. -/
def wrongType (found expected : String) : String :=
  "invalid type: " ++ found ++ ", expected " ++ expected

/-- A scalar as messages show it. -/
def Resolved.described : Resolved → String
  | null => "unit value"
  | bool b => "boolean " ++ ticked (Datum.boolText b)
  | whole n => "integer " ++ ticked (String.ofList (Numeral.wholeText n))
  | huge n =>
    "integer " ++ ticked (String.ofList (Numeral.wholeText n)) ++ " as "
      ++ (if 0 ≤ n then "u128" else "i128")
  | double d => "floating point " ++ ticked (String.ofList (Layout.message.text d))
  | text s => "string " ++ Text.quoted s

/-- A node as messages show it. -/
def Node.described : Node → String
  | scalar _ tag style cs =>
    match Resolved.ofScalar tag style cs with
    | .ok r => r.described
    | .error _ => "string " ++ Text.quoted (String.ofList cs)
  | sequence _ _ _ => "sequence"
  | mapping _ _ _ => "map"

/-! ## Readers -/

/-- A value read from a node, or the fault. -/
abbrev Reading (α : Type) := Except Fault α

/-- The fault of a node of the wrong type. -/
def Node.wrong {α : Type} (way : Way) (n : Node) (expected : String) : Reading α :=
  .error ⟨wrongType n.described expected, some (way, n.mark)⟩

/-- Whether a node is an empty plain scalar, as when nothing is written. -/
def Node.isNothing : Node → Bool
  | scalar _ _ style cs => style = .plain && cs.isEmpty
  | _ => false

/-- The text of a scalar as it is written. -/
def Node.text (expected : String) (way : Way) (n : Node) : Reading String :=
  match n with
  | scalar _ _ _ cs => .ok (String.ofList cs)
  | n => n.wrong way expected

/-- The text of a string field. -/
def Node.stringField (way : Way) (n : Node) : Reading String := n.text "a string" way

/-- A truth value, written plainly or as a tagged literal block. -/
def Node.boolField (way : Way) (n : Node) : Reading Bool :=
  match n with
  | scalar _ tag style cs =>
    let admitted := style = .plain || (style = .literal && tag = some (Resolved.coreTag "bool"))
    match if admitted then Resolved.bool? cs else none with
    | some b => .ok b
    | none => n.wrong way "a boolean"
  | n => n.wrong way "a boolean"

/-- Whether an optional field counts as not given: nothing is written, or null written plainly. -/
def Node.isAbsent : Node → Bool
  | scalar _ tag style cs =>
    style = .plain &&
      match tag with
      | none => cs.isEmpty || Resolved.isNull cs
      | some t => t = Resolved.coreTag "null"
  | _ => false

/-- An optional field. -/
def Node.optional {α : Type} (read : Way → Node → Reading α) (way : Way) (n : Node) :
    Reading (Option α) :=
  if n.isAbsent then .ok none
  else
    match read way n with
    | .ok a => .ok (some a)
    | .error f => .error f

/-- Reads items one after another. -/
def readItems {α : Type} (read : Way → Node → Reading α) (way : Way) :
    (position : Nat) → List Node → Reading (List α)
  | _, [] => .ok []
  | position, n :: rest =>
    match read (way ++ [.index position]) n with
    | .error f => .error f
    | .ok a =>
      match readItems read way (position + 1) rest with
      | .error f => .error f
      | .ok as => .ok (a :: as)

/-- A list field. -/
def Node.listField {α : Type} (read : Way → Node → Reading α) (way : Way) (n : Node) :
    Reading (List α) :=
  match n with
  | sequence _ _ items => readItems read way 0 items
  | n => if n.isNothing then .ok [] else n.wrong way "a sequence"

/-- The entries of a map field, or of a record named in messages as `expected`. -/
def Node.entries (expected : String) (way : Way) (n : Node) : Reading (List (Node × Node)) :=
  match n with
  | mapping _ _ entries => .ok entries
  | n => if n.isNothing then .ok [] else n.wrong way expected

/-- The step to the value of a key. -/
def Node.step : Node → Step
  | scalar _ _ _ cs => .key (String.ofList cs)
  | _ => .other

/-- What messages about values of data ask for. -/
def anyValue : String := "any valid JSON value"

/-- The value of data that a scalar stands for. -/
def scalarValue (way : Way) (mark : Mark) (tag : Option (List Char)) (style : Style)
    (cs : List Char) : Reading Value :=
  match Resolved.ofScalar tag style cs with
  | .ok .null => .ok .null
  | .ok (.bool b) => .ok (.bool b)
  | .ok (.whole n) => .ok (.number (.whole n))
  | .ok (.huge n) => .error ⟨wrongType (Resolved.huge n).described anyValue, some (way, mark)⟩
  | .ok (.double d) => .ok (if d.isFinite then .number (.double d) else .null)
  | .ok (.text s) => .ok (.text s)
  | .error what =>
    .error ⟨"invalid value: string " ++ Text.quoted (String.ofList cs) ++ ", expected " ++ what,
      some (way, mark)⟩

mutual

/-- The value of data that a node stands for. Numbers that are not finite become null, tags other
than those of the core schema do not fit, of a repeated key the last value counts. -/
def Node.value (way : Way) : Node → Reading Value
  | .scalar mark tag style cs =>
    if (ownTag? tag).isSome then .error ⟨wrongType "enum" anyValue, some (way, mark)⟩
    else scalarValue way mark tag style cs
  | .sequence mark tag items =>
    if (ownTag? tag).isSome then .error ⟨wrongType "enum" anyValue, some (way, mark)⟩
    else
      match itemValues way 0 items with
      | .error f => .error f
      | .ok vs => .ok (.list vs)
  | .mapping mark tag entries =>
    if (ownTag? tag).isSome then .error ⟨wrongType "enum" anyValue, some (way, mark)⟩
    else
      match entryValues way "a string key" entries with
      | .error f => .error f
      | .ok es => .ok (Value.mapOf es)

/-- The values of items. -/
def itemValues (way : Way) (position : Nat) : List Node → Reading (List Value)
  | [] => .ok []
  | n :: rest =>
    match Node.value (way ++ [.index position]) n with
    | .error f => .error f
    | .ok v =>
      match itemValues way (position + 1) rest with
      | .error f => .error f
      | .ok vs => .ok (v :: vs)

/-- The values of entries. -/
def entryValues (way : Way) (expected : String) :
    List (Node × Node) → Reading (List (String × Value))
  | [] => .ok []
  | (k, v) :: rest =>
    match k.text expected way with
    | .error f => .error f
    | .ok key =>
      match Node.value (way ++ [.key key]) v with
      | .error f => .error f
      | .ok value =>
        match entryValues way "a string" rest with
        | .error f => .error f
        | .ok es => .ok ((key, value) :: es)

end

/-- The value of data that a text holds as a document; an empty text holds null. -/
def readValue? (text : String) : Option Value :=
  match Document.read text with
  | none => none
  | some (.empty _) => some .null
  | some (.root n) =>
    match n.value [] with
    | .ok v => some v
    | .error _ => none

end Docket.Yaml
