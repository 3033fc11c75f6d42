import Docket.Digest.Sha256
import Docket.Objection
import Docket.Text.Lines
import Docket.Value.Print
import Docket.Value.Read
import Docket.Yaml.Decode

/-!
# Contexts

A context is the map of data that a template is rendered with.

## Reading

A context is written either in the strict notation of data or as a document. A blank text, like a
written null, is the empty context.

## Fingerprint

`Context.fingerprint` is a digest of the data that does not depend on the order of keys: a map is
written out key by key in increasing order, with a comma behind every entry, a list item by item.
-/

namespace Docket

/-- The data that a template is rendered with. -/
structure Context where
  entries : List (String × Value)
deriving Inhabited

namespace Context

/-- A context without data. -/
def empty : Context := ⟨[]⟩

/-- A context as a value. -/
def value (c : Context) : Value := .map c.entries

/-- The context that a value is; null is the empty context. -/
def ofValue : Value → Except Error Context
  | .map entries => .ok ⟨entries⟩
  | .null => .ok empty
  | v => .error (.invalidContext v.kind)

/-! ## Reading -/

/-- Reads a context from a document. -/
def readDocument [Objections] (text : String) : Except Error Context :=
  if Text.allBlank text then .ok empty
  else
    match Yaml.readValue? text with
    | some v => ofValue v
    | none => .error (.unreadableDocument (Objections.context text))

/-- Reads a context in the strict notation. -/
def readData [Objections] (text : String) : Except Error Context :=
  if Text.allBlank text then .ok empty
  else
    match Value.read text with
    | some v => ofValue v
    | none => .error (.unreadableData (Objections.contextData text))

/-! ## Fingerprint -/

mutual

/-- A value written out for its fingerprint. -/
def canonical : Value → List Char
  | .map entries => '\x7b' :: (canonicalEntries entries ++ ['\x7d'])
  | .list items => '[' :: (canonicalItems items ++ [']'])
  | v => v.compactChars

/-- Entries, each with a comma behind it. -/
def canonicalEntries : List (String × Value) → List Char
  | [] => []
  | (k, v) :: rest => Value.escaped k ++ ':' :: (canonical v ++ ',' :: canonicalEntries rest)

/-- Items, each with a comma behind it. -/
def canonicalItems : List Value → List Char
  | [] => []
  | v :: rest => canonical v ++ ',' :: canonicalItems rest

end

/-- The bytes that the fingerprint of a context is the digest of. -/
def bytes (c : Context) : List UInt8 :=
  Digest.textBytes (String.ofList (canonical c.value.settled))

/-- A digest of the data of a context. -/
def fingerprint (c : Context) : String := Digest.fingerprint c.bytes

end Context

end Docket
