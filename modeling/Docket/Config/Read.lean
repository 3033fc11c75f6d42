import Docket.Config.Settings
import Docket.Files.Disk
import Docket.Objection
import Docket.Value.Read

/-!
# Reading configurations

`Config.load` reads the configuration of a directory. It is in the first of the files
`ticketsmith.yaml`, `ticketsmith.yml` and `ticketsmith.json` that is there; without one, everything
has its default.
-/

namespace Docket.Config

/-- A configuration from some content of a known version. -/
def ofContentOf (wording : Wording) (malformed : String → Error) (c : Content) :
    Except Error Config :=
  match ofContent wording c.rest with
  | .error problem => .error (malformed problem)
  | .ok config => .ok config

/-- Reads a configuration from a document. -/
def readDocument [Objections] (file text : String) : Except Error Config :=
  let noDocument : Except Error Config := .error ((Objections.config text).error file)
  let fault (f : Yaml.Fault) : Except Error Config := .error (.malformed file f.line f.message)
  match Yaml.Document.read text with
  | none => noDocument
  | some (.empty mark) => fault ⟨Yaml.wrongType "Option value" fileName, some ([], mark)⟩
  | some (.root n) =>
    match Yaml.Datum.ofNode? n with
    | none => noDocument
    | some _ =>
      match contentOfDocument n with
      | .error f => fault f
      | .ok content => ofContentOf documentWording (.malformed file 1) content

/-- The error of a file in the strict notation that does not hold a configuration. -/
def malformedData [Objections] (file text problem : String) : Error :=
  match Objections.place? text problem with
  | some (line, column) =>
    .malformed file (max line 1)
      (problem ++ " at line " ++ toString line ++ " column " ++ toString column)
  | none => .malformed file 1 problem

/-- Reads a configuration in the strict notation. -/
def readData [Objections] (file text : String) : Except Error Config :=
  match Value.readWritten text with
  | none => .error ((Objections.configData text).error file)
  | some v =>
    match contentOfValue v with
    | .error problem => .error (malformedData file text problem)
    | .ok content => ofContentOf dataWording (malformedData file text) content

/-- The names of files that hold a configuration, in the order in which they are looked for, with
whether they are in the strict notation. -/
def fileNames : List (String × Bool) :=
  [("ticketsmith.yaml", false), ("ticketsmith.yml", false), ("ticketsmith.json", true)]

/-- Reads the configuration file of a directory, if there is one. -/
def readFirst [Objections] (disk : Disk) (directory : String) :
    List (String × Bool) → Except Error Config
  | [] => .ok {}
  | (name, strict) :: rest =>
    let file := Location.join directory name
    if disk.isFile file then
      match disk.read file with
      | .error fault => .error (.file fault)
      | .ok text => if strict then readData file text else readDocument file text
    else readFirst disk directory rest

/-- The configuration of a directory, checked. -/
def load [Objections] (disk : Disk) (directory : String) : Except Error Config :=
  match readFirst disk directory fileNames with
  | .error e => .error e
  | .ok config =>
    match config.check with
    | .error e => .error e
    | .ok _ => .ok config

end Docket.Config
