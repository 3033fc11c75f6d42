import Docket.Config.Basic
import Docket.Yaml.Decode

/-!
# Settings

The settings of a configuration are read in two goes. First the whole content is taken in and the
version of its layout is looked at; then the settings are read from that content. Faults of the
second go have no place in the file any more.

## Content

Content is data with keys of any kind. The wordings of the two notations differ for nothing and for
numbers with a point.

## Settings

A setting is known by its name or by its position; settings of other names are passed over.
-/

namespace Docket.Config

open Yaml (Datum Node Reading Fault Way Step)

/-! ## Content -/

/-- How content is shown in messages. -/
structure Wording where
  nothing : String
  double : Double → List Char

/-- The wording for documents. -/
def documentWording : Wording := ⟨"unit value", Layout.message.text⟩

/-- The wording for the strict notation. -/
def dataWording : Wording := ⟨"null", Layout.data.text⟩

namespace Wording

/-- Content as messages show it. -/
def described (w : Wording) : Datum → String
  | .null => w.nothing
  | .bool b => "boolean " ++ Yaml.ticked (Datum.boolText b)
  | .whole n => "integer " ++ Yaml.ticked (String.ofList (Numeral.wholeText n))
  | .double d => "floating point " ++ Yaml.ticked (String.ofList (w.double d))
  | .text s => "string " ++ Text.quoted s
  | .sequence _ => "sequence"
  | .mapping _ => "map"
  | .tagged _ _ => "enum"

/-- The problem of content of the wrong type. -/
def wrongType (w : Wording) (found : Datum) (expected : String) : String :=
  Yaml.wrongType (w.described found) expected

end Wording

/-- The content of a file: the version of its layout, and the rest. -/
structure Content where
  version : String
  rest : Datum

/-- The name under which the version is found. -/
def versionName : String := "schemaVersion"

/-- The version of the layout that is read here. -/
def knownVersion : String := "v1"

/-- What a file is to be in the eyes of messages. -/
def fileName : String := "internally tagged enum Config"

/-- The problem of a name that is not among those of some variants. -/
def unknownVariant (name : String) (names : List String) : String :=
  "unknown variant " ++ Yaml.ticked name ++ ", " ++ Yaml.expectedNames names

/-! ### Documents -/

mutual

/-- The content of a node. Own tags do not fit here. -/
def contentOf (way : Way) : Node → Reading Datum
  | .scalar mark tag style cs =>
    if (Yaml.ownTag? tag).isSome then tagFault way mark
    else
      match Yaml.Resolved.ofScalar tag style cs with
      | .ok r =>
        match Datum.ofResolved? r with
        | some d => .ok d
        | none => .error ⟨Yaml.wrongType r.described "any value", some (way, mark)⟩
      | .error what =>
        .error
          ⟨"invalid value: string " ++ Text.quoted (String.ofList cs) ++ ", expected " ++ what,
            some (way, mark)⟩
  | .sequence mark tag items =>
    if (Yaml.ownTag? tag).isSome then tagFault way mark
    else
      match contentOfItems way 0 items with
      | .error f => .error f
      | .ok ds => .ok (.sequence ds)
  | .mapping mark tag entries =>
    if (Yaml.ownTag? tag).isSome then tagFault way mark
    else
      match contentOfEntries way entries with
      | .error f => .error f
      | .ok es => .ok (.mapping es)

/-- The fault of a node with a tag of its own. -/
def tagFault (way : Way) (mark : Yaml.Mark) : Reading Datum :=
  .error ⟨"untagged and internally tagged enums do not support enum input", some (way, mark)⟩

/-- The contents of items, counted from `position`. -/
def contentOfItems (way : Way) (position : Nat) : List Node → Reading (List Datum)
  | [] => .ok []
  | n :: rest =>
    match contentOf (way ++ [.index position]) n with
    | .error f => .error f
    | .ok d =>
      match contentOfItems way (position + 1) rest with
      | .error f => .error f
      | .ok ds => .ok (d :: ds)

/-- The contents of entries. -/
def contentOfEntries (way : Way) : List (Node × Node) → Reading (List (Datum × Datum))
  | [] => .ok []
  | (k, v) :: rest =>
    match contentOf way k with
    | .error f => .error f
    | .ok key =>
      match contentOf (way ++ [k.step]) v with
      | .error f => .error f
      | .ok value =>
        match contentOfEntries way rest with
        | .error f => .error f
        | .ok es => .ok ((key, value) :: es)

end

/-- The version that a node writes. -/
def versionOf (way : Way) (n : Node) : Reading String :=
  match n.text "variant identifier" way with
  | .error f => .error f
  | .ok name =>
    if name = knownVersion then .ok name
    else .error ⟨unknownVariant name [knownVersion], some (way, n.mark)⟩

/-- Takes in entries in order. -/
def gatherEntries : List (Node × Node) → Option String → List (Datum × Datum) →
    Reading (Option String × List (Datum × Datum))
  | [], version, before => .ok (version, before)
  | (k, v) :: rest, version, before =>
    match contentOf [] k with
    | .error f => .error f
    | .ok key =>
      if let .text name := key then
        if name = versionName then
          if version.isSome then .error ⟨Yaml.duplicateField versionName, none⟩
          else
            match versionOf [.key name] v with
            | .error f => .error f
            | .ok version => gatherEntries rest (some version) before
        else
          match contentOf [k.step] v with
          | .error f => .error f
          | .ok value => gatherEntries rest version (before ++ [(key, value)])
      else
        match contentOf [k.step] v with
        | .error f => .error f
        | .ok value => gatherEntries rest version (before ++ [(key, value)])

/-- The content of a document. -/
def contentOfDocument (n : Node) : Reading Content :=
  let missing : Fault := ⟨Yaml.missingField versionName, some ([], n.mark)⟩
  if (Yaml.ownTag? n.tag).isSome then
    .error ⟨Yaml.wrongType "enum" fileName, some ([], n.mark)⟩
  else
    match n with
    | .scalar _ _ _ _ => n.wrong [] fileName
    | .sequence _ _ [] => .error missing
    | .sequence _ _ (first :: items) =>
      match versionOf [.index 0] first with
      | .error f => .error f
      | .ok version =>
        match contentOfItems [] 1 items with
        | .error f => .error f
        | .ok ds => .ok ⟨version, .sequence ds⟩
    | .mapping mark _ entries =>
      match gatherEntries entries none [] with
      | .error f => .error (f.within [] mark)
      | .ok (none, _) => .error missing
      | .ok (some version, es) => .ok ⟨version, .mapping es⟩

/-! ### Strict notation -/

mutual

/-- Data as content. -/
def ofValue : Value → Datum
  | .null => .null
  | .bool b => .bool b
  | .number (.whole n) => .whole n
  | .number (.double d) => .double d
  | .text s => .text s
  | .list items => .sequence (ofValues items)
  | .map entries => .mapping (ofEntries entries)

/-- Items as content. -/
def ofValues : List Value → List Datum
  | [] => []
  | v :: rest => ofValue v :: ofValues rest

/-- Entries as content. -/
def ofEntries : List (String × Value) → List (Datum × Datum)
  | [] => []
  | (k, v) :: rest => (.text k, ofValue v) :: ofEntries rest

end

/-- The version that a value writes. -/
def versionOfValue : Value → Except String String
  | .text name =>
    if name = knownVersion then .ok name else .error (unknownVariant name [knownVersion])
  | v => .error (dataWording.wrongType (ofValue v) "variant identifier")

/-- Takes in the entries of a map in order. -/
def gatherValues : List (String × Value) → Option String → List (String × Value) →
    Except String (Option String × List (String × Value))
  | [], version, before => .ok (version, before)
  | (k, v) :: rest, version, before =>
    if k = versionName then
      if version.isSome then .error (Yaml.duplicateField versionName)
      else
        match versionOfValue v with
        | .error e => .error e
        | .ok version => gatherValues rest (some version) before
    else gatherValues rest version (before ++ [(k, v)])

/-- The content of a value. -/
def contentOfValue : Value → Except String Content
  | .list [] => .error (Yaml.missingField versionName)
  | .list (first :: items) =>
    match versionOfValue first with
    | .error e => .error e
    | .ok version => .ok ⟨version, .sequence (ofValues items)⟩
  | .map entries =>
    match gatherValues entries none [] with
    | .error e => .error e
    | .ok (none, _) => .error (Yaml.missingField versionName)
    | .ok (some version, es) => .ok ⟨version, .mapping (ofEntries es)⟩
  | v => .error (dataWording.wrongType (ofValue v) fileName)

/-! ## Settings -/

/-- The settings by position. -/
def settingNames : List String :=
  ["template_globs", "ignore", "cache_ttl_secs", "default_strictness", "degraded_fallback",
   "section_separator"]

variable (w : Wording)

/-- A setting that is a text. -/
def readText : Datum → Except String String
  | .text s => .ok s
  | d => .error (w.wrongType d "a string")

/-- A setting that is a list of texts. -/
def readTexts : Datum → Except String (List String)
  | .sequence items => items.mapM (readText w)
  | d => .error (w.wrongType d "a sequence")

/-- A setting that is a truth value. -/
def readBool : Datum → Except String Bool
  | .bool b => .ok b
  | d => .error (w.wrongType d "a boolean")

/-- A setting that is a count. -/
def readCount : Datum → Except String Nat
  | .whole n =>
    if 0 ≤ n then .ok n.toNat
    else .error ("invalid value: " ++ w.described (.whole n) ++ ", expected u64")
  | d => .error (w.wrongType d "u64")

/-- A strictness, known by its name or by its position. -/
def readStrictnessName : Datum → Except String Strictness
  | .text s =>
    match Strictness.ofName? s with
    | some x => .ok x
    | none => .error (unknownVariant s ["lenient", "strict"])
  | .whole n =>
    if n = 0 then .ok .lenient
    else if n = 1 then .ok .strict
    else if 0 < n then
      .error ("invalid value: " ++ w.described (.whole n) ++ ", expected variant index 0 <= i < 2")
    else .error (w.wrongType (.whole n) "variant identifier")
  | d => .error (w.wrongType d "variant identifier")

/-- A setting that is a strictness: its name, or a map from it to nothing. -/
def readStrictness : Datum → Except String Strictness
  | .text s => readStrictnessName w (.text s)
  | .mapping [(name, value)] =>
    match readStrictnessName w name with
    | .error e => .error e
    | .ok s =>
      match value with
      | .null | .mapping [] => .ok s
      | d => .error (w.wrongType d "unit")
  | .mapping _ => .error "invalid value: map, expected map with a single key"
  | d => .error (w.wrongType d "string or map")

/-- The settings that have been given. -/
structure Given where
  templateGlobs : Option (List String) := none
  ignore : Option (List String) := none
  cacheSeconds : Option Nat := none
  strictness : Option Strictness := none
  degradedFallback : Option Bool := none
  separator : Option String := none

/-- Sets a setting that may be given once. -/
def once {α : Type} (name : String) (setting : Option α) (read : Except String α) :
    Except String (Option α) :=
  if setting.isSome then .error (Yaml.duplicateField name) else read.map some

/-- Takes note of a setting. -/
def Given.set (g : Given) (name : String) (d : Datum) : Except String Given :=
  match name with
  | "template_globs" =>
    (once name g.templateGlobs (readTexts w d)).map fun x => { g with templateGlobs := x }
  | "ignore" => (once name g.ignore (readTexts w d)).map fun x => { g with ignore := x }
  | "cache_ttl_secs" =>
    (once name g.cacheSeconds (readCount w d)).map fun x => { g with cacheSeconds := x }
  | "default_strictness" =>
    (once name g.strictness (readStrictness w d)).map fun x => { g with strictness := x }
  | "degraded_fallback" =>
    (once name g.degradedFallback (readBool w d)).map fun x => { g with degradedFallback := x }
  | "section_separator" =>
    (once name g.separator (readText w d)).map fun x => { g with separator := x }
  | _ => .ok g

/-- The settings with defaults for those that have not been given. -/
def Given.config (g : Given) : Config :=
  let standard : Config := {}
  { templateGlobs := g.templateGlobs.getD standard.templateGlobs
    ignore := g.ignore.getD standard.ignore
    cacheSeconds := g.cacheSeconds.getD standard.cacheSeconds
    strictness := g.strictness.getD standard.strictness
    degradedFallback := g.degradedFallback.getD standard.degradedFallback
    separator := g.separator.getD standard.separator }

/-- The name of the setting that a key stands for; positions beyond the last one stand for none. -/
def settingName : Datum → Except String String
  | .text s => .ok s
  | .whole n =>
    if 0 ≤ n then .ok (settingNames[n.toNat]?.getD "")
    else .error (w.wrongType (.whole n) "field identifier")
  | d => .error (w.wrongType d "field identifier")

/-- Takes note of settings in order. -/
def Given.setAll (g : Given) : List (Datum × Datum) → Except String Given
  | [] => .ok g
  | (k, d) :: rest =>
    match settingName w k with
    | .error e => .error e
    | .ok name =>
      match g.set w name d with
      | .error e => .error e
      | .ok g => setAll g rest

/-- The settings of some content. -/
def ofContent : Datum → Except String Config
  | .mapping entries => (Given.setAll w {} entries).map Given.config
  | .sequence items =>
    match Given.setAll w {} ((settingNames.map Datum.text).zip items) with
    | .error e => .error e
    | .ok g =>
      if items.length ≤ settingNames.length then .ok g.config
      else
        .error ("invalid length " ++ toString items.length ++ ", expected "
          ++ toString settingNames.length ++ " elements in sequence")
  | d => .error (w.wrongType d "struct EngineConfig")

end Docket.Config
