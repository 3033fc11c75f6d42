import Docket.Store.Load
import Docket.Template.Body

/-!
# Validation

`validate` reads a file, or all template files of a directory, and reports every problem it finds:
files that cannot be read, sections that cannot be rendered, identities that repeat, trouble with
inheritance.

Problems are told in the order of their files and lines, each once.
-/

namespace Docket

/-- A problem on a line of a file. -/
structure Diagnostic where
  file : String
  line : Nat
  message : String
deriving DecidableEq, Repr

namespace Diagnostic

/-- A problem as one line of text. -/
def text (d : Diagnostic) : String := d.file ++ ":" ++ toString d.line ++ ": " ++ d.message

/-- The order of problems: by file, by line, by wording. -/
def before (a b : Diagnostic) : Bool :=
  if Location.steps a.file ≠ Location.steps b.file then Location.before a.file b.file
  else if a.line ≠ b.line then a.line < b.line
  else a.message < b.message

/-- Puts a problem in its place among others in order; a problem that is there already is not
repeated. -/
def insert (d : Diagnostic) : List Diagnostic → List Diagnostic
  | [] => [d]
  | e :: rest =>
    if d.before e then d :: e :: rest
    else if e.before d then e :: insert d rest
    else e :: rest

/-- Problems in order, each once. -/
def sorted (ds : List Diagnostic) : List Diagnostic := ds.foldl (fun acc d => insert d acc) []

end Diagnostic

namespace Validation

/-- The problem of a file that cannot be read. -/
def unread (f : FoundFile) : Error → Diagnostic
  | .file fault => ⟨f.location, 1, "cannot read file: " ++ fault.message⟩
  | .malformed file line problem => ⟨file, line, problem⟩
  | e => ⟨f.location, 1, e.message⟩

/-- A file that could be read. -/
structure Readable where
  text : String
  definition : Definition

/-- What a file holds, or its problem. -/
def check [Objections] (f : FoundFile) : Except Diagnostic Readable :=
  match f.read with
  | .error e => .error (unread f e)
  | .ok text =>
    match Definition.read f.location text with
    | .error e => .error (unread f e)
    | .ok d => .ok ⟨text, d⟩

/-- The problem of a section that cannot be rendered. -/
def sectionProblem? (r : Readable) (s : Section) : Option Diagnostic :=
  (Error.of? (Template.check s.body)).map fun e =>
    ⟨r.definition.source, Definition.lineOfSection r.text s.name,
      "section '" ++ s.name ++ "': " ++ e.message⟩

/-- The key that tells the identity of a definition in its file. -/
def identityKey : Identity → String
  | .template _ => "platform"
  | .fragment _ => "fragment"

/-- The problem of an error that concerns the identity of a definition. -/
def identityProblem (r : Readable) (e : Error) : Diagnostic :=
  ⟨r.definition.source, Definition.lineOfKey r.text (identityKey r.definition.identity), e.message⟩

/-- The identities met so far: templates by the text of their keys, each with its file, and
fragments by name. -/
structure Index where
  templates : List (String × String) := []
  fragments : Fragments := []

/-- The file of the definition that has taken an identity. -/
def Index.holder? (i : Index) : Identity → Option String
  | .template key => i.templates.lookup key.text
  | .fragment name => (i.fragments.lookup name).map (·.source)

/-- Adds a definition whose identity is not taken. -/
def Index.add (i : Index) (d : Definition) : Index :=
  match d.identity with
  | .template key =>
    { i with
      templates := insertOrdered (fun a b => decide (a < b)) key.text d.source i.templates }
  | .fragment name =>
    { i with fragments := insertOrdered (fun a b => decide (a < b)) name d i.fragments }

/-- Collects definitions; those whose identity is taken are problems. -/
def collect : List Readable → Index → List Diagnostic × Index
  | [], index => ([], index)
  | r :: rest, index =>
    let d := r.definition
    match index.holder? d.identity with
    | none => collect rest (index.add d)
    | some first =>
      let (problems, index) := collect rest index
      (identityProblem r (.duplicate (d.identity.text) first d.source) :: problems, index)

/-- The problem of a definition that cannot be merged with the fragments met. -/
def mergeProblem? (fragments : Fragments) (r : Readable) : Option Diagnostic :=
  (Error.of? (r.definition.merge fragments)).map fun e =>
    ⟨r.definition.source, Definition.lineOfKey r.text "baseRefs", e.message⟩

/-- Files that could be read and the problems of those that could not. -/
def readAll [Objections] (files : List FoundFile) : List Diagnostic × List Readable :=
  files.foldr
    (fun f (problems, readable) =>
      match check f with
      | .ok r => (problems, r :: readable)
      | .error d => (d :: problems, readable))
    ([], [])

/-- All problems of some files, in order. -/
def problems [Objections] (files : List FoundFile) : List Diagnostic :=
  let (unreadable, readable) := readAll files
  let (repeated, index) := collect readable {}
  Diagnostic.sorted
    (unreadable ++ readable.flatMap (fun r => r.definition.sections.filterMap (sectionProblem? r))
      ++ repeated ++ readable.filterMap (mergeProblem? index.fragments))

end Validation

/-- The files that are validated in a location: a file itself, or the template files of a
directory. -/
def validatedFiles [Objections] (disk : Disk) (location : String) (config : Config) :
    Except Error (List FoundFile) :=
  if disk.isFile location then
    match disk.files location with
    | .ok files => .ok files
    | .error fault => .error (.file fault)
  else if disk.isDirectory location then
    match Discovery.ofConfig config with
    | .error e => .error e
    | .ok discovery => discovery.files disk location
  else .error (.rootMissing location)

/-- The problems of a file or of a directory of templates. -/
def validate [Objections] (disk : Disk) (location : String) (config : Config) :
    Except Error (List Diagnostic) :=
  match validatedFiles disk location config with
  | .error e => .error e
  | .ok files => .ok (Validation.problems files)

end Docket
