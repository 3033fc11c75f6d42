import Docket.Definition.Basic
import Docket.Objection
import Docket.Text.Lines
import Docket.Yaml.Decode

/-!
# Reading definitions

## Lines

Some problems are told with the line on which a key or a section is declared; these lines are found
by looking at the text alone.

## Fields

A file is a map of known fields. Its keys are read in order, and the first problem counts; fields
that are missing are found last.

## Files

`Definition.read` reads a file. A file with a key `fragment` is a fragment, every other file a
template.
-/

namespace Docket.Definition

open Yaml (Node Way Reading Fault Step)

/-! ## Lines -/

/-- The line of a text, counted from one, that a test finds first. -/
def findLine? (p : List Char → Bool) (text : String) : Option Nat :=
  ((Text.lines text.toList).findIdx? p).map (· + 1)

/-- The line of a key at the start of a line, or the first line. -/
def lineOfKey (text key : String) : Nat :=
  let start := key.toList ++ [':']
  (findLine? (fun line => start.isPrefixOf line) text).getD 1

/-- A line without the hyphens that announce items. -/
def dropHyphens : List Char → List Char
  | '-' :: ' ' :: rest => dropHyphens rest
  | line => line

/-- Whether a line declares the name of a section. -/
def declaresName (name : String) (line : List Char) : Bool :=
  let line := Text.trim (dropHyphens (Text.trimStart line))
  match Text.dropStart? "name:".toList line with
  | none => false
  | some value =>
    let isQuote (c : Char) : Bool := c = '"' || c = '\''
    let bare := Text.dropEndWhile isQuote ((Text.trim value).dropWhile isQuote)
    bare = name.toList

/-- The line on which a section is declared, or the line of the sections. -/
def lineOfSection (text name : String) : Nat :=
  (findLine? (declaresName name) text).getD (lineOfKey text "sections")

/-! ## Fields -/

/-- Sets a field that may be given once. -/
def once {α : Type} (name : String) (field : Option α) (read : Reading α) : Reading (Option α) :=
  match field, read with
  | some _, _ => .error ⟨Yaml.duplicateField name, none⟩
  | none, .ok a => .ok (some a)
  | none, .error f => .error f

/-- A field that must have been given. -/
def needed {α : Type} (name : String) : Option α → Reading α
  | some a => .ok a
  | none => .error ⟨Yaml.missingField name, none⟩

/-- Reads the entries of a record in order. `set` takes the name and the value of a field; names
other than `names` do not fit. -/
def readFields {α : Type} (names : List String) (way : Way)
    (set : String → Way → Node → α → Reading α) : List (Node × Node) → α → Reading α
  | [], a => .ok a
  | (k, v) :: rest, a =>
    match k.text "field identifier" way with
    | .error f => .error f
    | .ok name =>
      if names.contains name then
        match set name (way ++ [.key name]) v a with
        | .error f => .error f
        | .ok a => readFields names way set rest a
      else .error ⟨Yaml.unknownField name names, some (way, k.mark)⟩

/-- Reads a record: its entries, then what they amount to. Faults without a place of their own are
those of the whole record. -/
def readRecord {α β : Type} (expected : String) (names : List String) (empty : α)
    (set : String → Way → Node → α → Reading α) (finish : α → Reading β) (way : Way) (n : Node) :
    Reading β :=
  match n.entries expected way with
  | .error f => .error f
  | .ok entries =>
    match readFields names way set entries empty with
    | .error f => .error (f.within way n.mark)
    | .ok a =>
      match finish a with
      | .error f => .error (f.within way n.mark)
      | .ok b => .ok b

/-- The fields of a section. -/
def readSection : Way → Node → Reading Section :=
  readRecord "struct Section" ["name", "body"] (none, none)
    (fun field way n (name, body) =>
      if field = "name" then do pure (← once field name (n.stringField way), body)
      else do pure (name, ← once field body (n.stringField way)))
    (fun (name, body) => do pure ⟨← needed "name" name, ← needed "body" body⟩)

/-- The declaration of a variable while it is read: each attribute may be given once, and may be
given as nothing. -/
structure VariableDraft where
  required : Option (Option Bool) := none
  default : Option (Option Value) := none
  description : Option (Option String) := none

/-- The declaration of a variable. -/
def readVariable : Way → Node → Reading Declaration :=
  readRecord "struct VariableSpec" ["required", "default", "description"] ({} : VariableDraft)
    (fun field way n d =>
      if field = "required" then do
        pure { d with required := ← once field d.required (n.optional Node.boolField way) }
      else if field = "default" then do
        pure { d with default := ← once field d.default (n.optional Node.value way) }
      else do
        pure
          { d with description := ← once field d.description (n.optional Node.stringField way) })
    (fun d => .ok ⟨d.required.join, d.default.join, d.description.join⟩)

/-- Reads declared variables in order. -/
def readVariables (way : Way) : List (Node × Node) → Schema → Reading Schema
  | [], schema => .ok schema
  | (k, v) :: rest, schema =>
    match k.stringField way with
    | .error f => .error f
    | .ok name =>
      match readVariable (way ++ [.key name]) v with
      | .error f => .error f
      | .ok declaration => readVariables way rest (schema.declare name declaration)

/-- The schema of a file. -/
def readSchema (way : Way) (n : Node) : Reading Schema :=
  match n.entries "a map" way with
  | .error f => .error f
  | .ok entries => readVariables way entries []

/-- The version of a file: a text as it is, a number as numbers are written. -/
def readVersion (n : Node) : Reading String :=
  match Yaml.Datum.ofNode? n with
  | some (.text s) => .ok s
  | some d =>
    match d.numberText? with
    | some s => .ok s
    | none => .error ⟨"version must be a string or a number, found " ++ d.shown, none⟩
  | none => .error ⟨"version must be a string or a number", none⟩

/-- A file while it is read. -/
structure Draft where
  platform : Option String := none
  documentType : Option String := none
  techStack : Option String := none
  fragment : Option String := none
  version : Option String := none
  description : Option (Option String) := none
  sections : Option (List Section) := none
  schema : Option Schema := none
  bases : Option (List String) := none

/-- Sets a field of a file. -/
def Draft.set (field : String) (way : Way) (n : Node) (d : Draft) : Reading Draft :=
  match field with
  | "platform" => do pure { d with platform := ← once field d.platform (n.stringField way) }
  | "documentType" => do
    pure { d with documentType := ← once field d.documentType (n.stringField way) }
  | "techStack" => do pure { d with techStack := ← once field d.techStack (n.stringField way) }
  | "fragment" => do pure { d with fragment := ← once field d.fragment (n.stringField way) }
  | "version" => do pure { d with version := ← once field d.version (readVersion n) }
  | "description" => do
    pure { d with description := ← once field d.description (n.optional Node.stringField way) }
  | "sections" => do
    pure { d with sections := ← once field d.sections (n.listField readSection way) }
  | "variables" => do pure { d with schema := ← once field d.schema (readSchema way n) }
  | "baseRefs" => do
    pure { d with bases := ← once field d.bases (n.listField Node.stringField way) }
  | _ => .ok d

/-- The fields that templates and fragments share. -/
def commonFields : List String := ["version", "description", "sections", "variables", "baseRefs"]

/-- A template file. -/
def readTemplate (source : String) : Node → Reading Definition :=
  readRecord "struct TemplateFile" (["platform", "documentType", "techStack"] ++ commonFields)
    ({} : Draft) Draft.set
    (fun d => do
      let platform ← needed "platform" d.platform
      let documentType ← needed "documentType" d.documentType
      let techStack ← needed "techStack" d.techStack
      let version ← needed "version" d.version
      let sections ← needed "sections" d.sections
      let schema ← needed "variables" d.schema
      pure
        ⟨.template ⟨platform, documentType, techStack⟩, version, d.description.join, sections,
          schema, d.bases.getD [], source⟩) []

/-- A fragment file. -/
def readFragment (source : String) : Node → Reading Definition :=
  readRecord "struct FragmentFile" ("fragment" :: commonFields) ({} : Draft) Draft.set
    (fun d => do
      let fragment ← needed "fragment" d.fragment
      let version ← needed "version" d.version
      pure
        ⟨.fragment fragment, version, d.description.join, d.sections.getD [],
          d.schema.getD [], d.bases.getD [], source⟩) []

/-! ## Files -/

/-- Whether a name is blank or holds a slash, which no part of an identity may. -/
def isBadName (name : String) : Bool := Text.allBlank name || name.toList.contains '/'

/-- Checks one part of the identity of a file. -/
def checkName (file text key name : String) : Except Error Unit :=
  if isBadName name then
    .error (.malformed file (lineOfKey text key)
      (Yaml.ticked key ++ " must be a non-empty name without '/', found " ++ Text.quoted name))
  else .ok ()

/-- Checks the identity of a file. -/
def checkIdentity (file text : String) : Identity → Except Error Unit
  | .fragment name => checkName file text "fragment" name
  | .template key =>
    match checkName file text "platform" key.platform with
    | .error e => .error e
    | .ok _ =>
      match checkName file text "documentType" key.documentType with
      | .error e => .error e
      | .ok _ => checkName file text "techStack" key.techStack

/-- Checks that every section has a name. -/
def checkSections (file text : String) (sections : List Section) : Except Error Unit :=
  match sections.find? fun s => Text.allBlank s.name with
  | some s =>
    .error (.malformed file (lineOfSection text s.name) "section names must not be empty")
  | none => .ok ()

/-- Whether a map has a key that is a given text. -/
def hasKey (name : String) (entries : List (Yaml.Datum × Yaml.Datum)) : Bool :=
  entries.any fun
    | (.text key, _) => key = name
    | _ => false

/-- Reads a file of definitions from its text. -/
def read [Objections] (file text : String) : Except Error Definition :=
  let noMap : Except Error Definition :=
    .error (.malformed file 1 "a template file must be a YAML mapping")
  let noDocument : Except Error Definition :=
    .error ((Objections.definition text).error file)
  match Yaml.Document.read text with
  | none => noDocument
  | some (.empty _) => noMap
  | some (.root n) =>
    match Yaml.Datum.ofNode? n with
    | none => noDocument
    | some datum =>
      match datum.untagged with
      | .mapping entries =>
        let reading :=
          if hasKey "fragment" entries then readFragment file n else readTemplate file n
        match reading with
        | .error f => .error (.malformed file f.line f.message)
        | .ok d =>
          match checkIdentity file text d.identity with
          | .error e => .error e
          | .ok _ =>
            match checkSections file text d.sections with
            | .error e => .error e
            | .ok _ => .ok d
      | _ => noMap

end Docket.Definition
