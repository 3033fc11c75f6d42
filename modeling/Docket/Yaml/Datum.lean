import Docket.Number.Shortest
import Docket.Text.Quoted
import Docket.Yaml.Node

/-!
# What a document says

## Scalars

A plain scalar is null, a boolean, a number or a text, whichever it is written as. Tags of the core
schema decide the type instead; other scalars are texts.

## Data of a document

`Datum` is the full meaning of a node, with maps whose keys are data themselves and with tags of its
own. A node has no meaning if a key repeats, a number is too large, or a tag does not fit.
-/

namespace Docket.Yaml

/-! ## Scalars -/

/-- The meaning of a scalar. -/
inductive Resolved where
  | null
  | bool (b : Bool)
  | whole (n : Int)
  /-- A whole number beyond 64 but within 128 bits. -/
  | huge (n : Int)
  | double (d : Double)
  | text (s : String)

namespace Resolved

/-- The words for null. -/
def isNull (cs : List Char) : Bool :=
  ["null", "Null", "NULL", "~"].any fun w => w.toList = cs

/-- The words for the two truth values. -/
def bool? (cs : List Char) : Option Bool :=
  if ["true", "True", "TRUE"].any fun w => w.toList = cs then some true
  else if ["false", "False", "FALSE"].any fun w => w.toList = cs then some false
  else none

/-- Digits with a zero in front, possibly behind a sign, are no number. -/
def isPadded (cs : List Char) : Bool :=
  let body := match cs with
    | '-' :: r | '+' :: r => r
    | r => r
  1 < body.length && body.head? = some '0' && body.all Numeral.isDigit

/-- A numeral after its sign: hexadecimal, octal or binary behind a mark, or decimal. -/
def magnitude? (cs : List Char) : Option Nat :=
  match cs with
  | '0' :: 'x' :: digits => Numeral.valueOf 16 digits
  | '0' :: 'o' :: digits => Numeral.valueOf 8 digits
  | '0' :: 'b' :: digits => Numeral.valueOf 2 digits
  | digits => if isPadded digits then none else Numeral.valueOf 10 digits

/-- The whole number that a scalar writes. -/
def whole? (cs : List Char) : Option Int :=
  match cs with
  | '-' :: r => (magnitude? r).map fun n => -(n : Int)
  | '+' :: r => (magnitude? r).map Int.ofNat
  | r => (magnitude? r).map Int.ofNat

/-- The meaning of a whole number, unless it is beyond 128 bits. -/
def ofWhole? (n : Int) : Option Resolved :=
  if -(Numeral.signedBound : Int) ≤ n && n < Numeral.unsignedBound then some (whole n)
  else if -(Nat.pow 2 127 : Int) ≤ n && n < Nat.pow 2 128 then some (huge n)
  else none

/-- The double that a scalar writes: one of the words, or a finite decimal. -/
def double? (cs : List Char) : Option Double :=
  let isOne (ws : List String) (cs : List Char) : Bool := ws.any fun w => w.toList = cs
  let unsigned? : Option (List Char) := match cs with
    | '+' :: '+' :: _ | '+' :: '-' :: _ => none
    | '+' :: r => some r
    | r => some r
  unsigned?.bind fun body =>
    if isOne [".inf", ".Inf", ".INF"] body then some (Double.infinity false)
    else if isOne ["-.inf", "-.Inf", "-.INF"] cs then some (Double.infinity true)
    else if isOne [".nan", ".NaN", ".NAN"] cs then some Double.undefined
    else
      (Numeral.decimal? body).bind fun d =>
        let v := Double.ofDecimal d.negative d.digits d.power
        if v.isFinite then some v else none

/-- The meaning of a plain scalar. -/
def ofPlain (cs : List Char) : Resolved :=
  if cs.isEmpty || isNull cs then null
  else
    match bool? cs with
    | some b => bool b
    | none =>
      match (whole? cs).bind ofWhole? with
      | some r => r
      | none =>
        match if isPadded cs then none else double? cs with
        | some d => double d
        | none => text (String.ofList cs)

/-- The tags of the core schema that decide a type. -/
def coreTag (name : String) : List Char := ("tag:yaml.org,2002:" ++ name).toList

/-- The meaning of a scalar; if its tag does not fit, what the tag asks for. -/
def ofScalar (tag : Option (List Char)) (style : Style) (cs : List Char) :
    Except String Resolved :=
  let byStyle := if style = .plain then ofPlain cs else text (String.ofList cs)
  match tag with
  | none => .ok byStyle
  | some t =>
    let need (r : Option Resolved) (what : String) : Except String Resolved :=
      match r with
      | some r => .ok r
      | none => .error what
    if t = coreTag "bool" then need ((bool? cs).map bool) "a boolean"
    else if t = coreTag "int" then need ((whole? cs).bind ofWhole?) "an integer"
    else if t = coreTag "float" then need ((double? cs).map double) "a float"
    else if t = coreTag "null" then need (if isNull cs then some null else none) "null"
    else if t.head? = some '!' then .ok byStyle
    else .ok (text (String.ofList cs))

end Resolved

/-- The name of a tag that is not of the core schema: what stands behind its exclamation mark. -/
def ownTag? (tag : Option (List Char)) : Option String :=
  match tag with
  | some ('!' :: name) => some (String.ofList name)
  | _ => none

/-! ## Data of a document -/

/-- The meaning of a node. -/
inductive Datum where
  | null
  | bool (b : Bool)
  | whole (n : Int)
  | double (d : Double)
  | text (s : String)
  | sequence (items : List Datum)
  | mapping (entries : List (Datum × Datum))
  | tagged (tag : String) (d : Datum)
deriving Inhabited

namespace Datum

mutual

/-- Whether two data are the same key. The order of entries does not matter; undefined numbers are
the same key as each other. -/
def same : Datum → Datum → Bool
  | null, null => true
  | bool a, bool b => a == b
  | whole a, whole b => a == b
  | double a, double b => a.sameValue b || (a.isUndefined && b.isUndefined)
  | text a, text b => a == b
  | sequence as, sequence bs => sameItems as bs
  | mapping as, mapping bs => as.length == bs.length && sameEntries as bs
  | tagged t a, tagged u b => t == u && same a b
  | _, _ => false

/-- Whether two sequences have the same items. -/
def sameItems : List Datum → List Datum → Bool
  | [], [] => true
  | a :: as, b :: bs => same a b && sameItems as bs
  | _, _ => false

/-- Whether every entry has its equal among others. -/
def sameEntries : List (Datum × Datum) → List (Datum × Datum) → Bool
  | [], _ => true
  | (k, v) :: rest, others =>
    (others.any fun (l, w) => same k l && same v w) && sameEntries rest others

end

/-- Whether no key repeats. -/
def distinctKeys : List (Datum × Datum) → Bool
  | [] => true
  | (k, _) :: rest => !(rest.any fun (l, _) => same k l) && distinctKeys rest

/-- Puts the tag of a node around its meaning. A tag without name is malformed. -/
def withTag? (tag : Option (List Char)) (d : Datum) : Option Datum :=
  match ownTag? tag with
  | some "" => none
  | some t => some (tagged t d)
  | none => some d

/-- The meaning of a scalar. -/
def ofResolved? : Resolved → Option Datum
  | .null => some null
  | .bool b => some (bool b)
  | .whole n => some (whole n)
  | .huge _ => none
  | .double d => some (double d)
  | .text s => some (text s)

mutual

/-- The meaning of a node, if it has one. -/
def ofNode? : Node → Option Datum
  | .scalar _ tag style cs =>
    match Resolved.ofScalar tag style cs with
    | .ok r => (ofResolved? r).bind (withTag? tag)
    | .error _ => none
  | .sequence _ tag items => (ofNodes? items).bind fun ds => withTag? tag (sequence ds)
  | .mapping _ tag entries =>
    (ofEntries? entries).bind fun es =>
      if distinctKeys es then withTag? tag (mapping es) else none

/-- The meanings of items. -/
def ofNodes? : List Node → Option (List Datum)
  | [] => some []
  | n :: rest =>
    match ofNode? n with
    | none => none
    | some d => (ofNodes? rest).map (d :: ·)

/-- The meanings of entries. -/
def ofEntries? : List (Node × Node) → Option (List (Datum × Datum))
  | [] => some []
  | (k, v) :: rest =>
    match ofNode? k with
    | none => none
    | some key =>
      match ofNode? v with
      | none => none
      | some value => (ofEntries? rest).map ((key, value) :: ·)

end

/-- A datum without the tags around it. -/
def untagged : Datum → Datum
  | tagged _ d => untagged d
  | d => d

/-- The text of a number of a document. -/
def numberText? : Datum → Option String
  | whole n => some (String.ofList (Numeral.wholeText n))
  | double d => some (String.ofList (Layout.document.text d))
  | _ => none

/-- Texts with commas between them. -/
def commaSeparated (ss : List String) : String := ", ".intercalate ss

/-- The word for a truth value. -/
def boolText (b : Bool) : String := if b then "true" else "false"

mutual

/-- A datum as messages show it. -/
def shown : Datum → String
  | null => "Null"
  | bool b => "Bool(" ++ boolText b ++ ")"
  | whole n => "Number(" ++ String.ofList (Numeral.wholeText n) ++ ")"
  | double d => "Number(" ++ String.ofList (Layout.document.text d) ++ ")"
  | text s => "String(" ++ Text.quoted s ++ ")"
  | sequence items => "Sequence [" ++ commaSeparated (shownItems items) ++ "]"
  | mapping [] => "Mapping \x7b\x7d"
  | mapping entries => "Mapping \x7b" ++ commaSeparated (shownEntries entries) ++ "\x7d"
  | tagged t d => "TaggedValue \x7b tag: !" ++ t ++ ", value: " ++ shown d ++ " \x7d"

/-- The items of a sequence as messages show them. -/
def shownItems : List Datum → List String
  | [] => []
  | d :: rest => shown d :: shownItems rest

/-- The entries of a mapping as messages show them: scalar keys are shown bare. -/
def shownEntries : List (Datum × Datum) → List String
  | [] => []
  | (k, v) :: rest =>
    let key := match k with
      | bool b => boolText b
      | whole n => String.ofList (Numeral.wholeText n)
      | double d => String.ofList (Layout.document.text d)
      | text s => Text.quoted s
      | k => shown k
    (key ++ ": " ++ shown v) :: shownEntries rest

end

end Datum

end Docket.Yaml
