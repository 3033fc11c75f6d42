import Docket.CommandLine.Basic
import Docket.Engine
import Docket.Validation
import Docket.Value.Indented

/-!
# Running commands

`Invocation.run` carries a command out. What it finds is a `Situation`, what it leaves is an
`Outcome`: the disk, what was printed and reported, what there is to tell, and how it ended.

A generation that fails ends the command with its failure, after the built-in template has been
handed out in its place if the settings want that. Everything that goes wrong before or after the
generation ends the command with an error of its own.
-/

namespace Docket

/-- Why a command fails. -/
inductive RunError where
  /-- A generation failed. -/
  | generation (failure : Failure)
  /-- Anything else went wrong. -/
  | other (error : Error)

namespace RunError

/-- The wording of the failure of a command. -/
def message : RunError → String
  | generation f => f.message
  | other e => e.message

/-- The exit code of a command that fails. -/
def exitCode : RunError → Nat
  | generation f => f.exitCode
  | other e => e.exitCode

end RunError

/-- What a command finds. -/
structure Situation where
  disk : Disk
  /-- The standard input. -/
  input : Except FileFault String
  /-- The present time in seconds. -/
  time : Int

/-- What a command leaves. -/
structure Outcome where
  disk : Disk
  /-- What is on the standard output. -/
  printed : String := ""
  /-- What is on the standard error output. -/
  reported : String := ""
  events : List Event := []
  result : Except RunError Unit := .ok ()

namespace Outcome

/-- The outcome of a command that changes nothing and fails. -/
def failed (s : Situation) (events : List Event) (e : Error) : Outcome where
  disk := s.disk
  events := events
  result := .error (.other e)

/-- The exit code of a command. -/
def exitCode (o : Outcome) : Nat :=
  match o.result with
  | .ok _ => 0
  | .error e => e.exitCode

end Outcome

namespace CommandLine

/-! ## Listing -/

/-- One template in a list. -/
def listed (s : Store) (key : TemplateKey) (d : Definition) : String :=
  let reason := (Error.of? (s.merge d)).map Error.message
  let mark := if reason.isSome then " [broken]" else ""
  let line (label : String) : Option String → String
    | some text => "    " ++ label ++ ": " ++ text ++ "\n"
    | none => ""
  "  " ++ key.platform ++ " / " ++ key.documentType ++ " / " ++ key.techStack ++ "  v" ++ d.version
    ++ mark ++ "\n" ++ line "Description" d.description ++ line "Source" (some d.source)
    ++ line "Error" reason ++ "\n"

/-- All templates in a list. -/
def listedTemplates (s : Store) (root : String) : String :=
  if s.templates.isEmpty then
    "No templates found under " ++ root ++ ".\n\nEvery request resolves to the built-in default.\n"
  else "Templates:\n\n" ++ String.join (s.templates.map fun (key, d) => listed s key d)

/-- The names of all fragments in a list. -/
def listedFragments (s : Store) : String :=
  if s.fragments.isEmpty then ""
  else "Fragments: " ++ ", ".intercalate (s.fragments.map (·.1)) ++ "\n"

/-- Lists the templates and fragments of a directory. -/
def Outcome.listing [Objections] (s : Situation) (root : String) : Outcome :=
  match Config.load s.disk root with
  | .error e => .failed s [] e
  | .ok config =>
    match Library.load s.disk root config with
    | .error e => .failed s [] e
    | .ok l =>
      { disk := s.disk
        printed := listedTemplates l.store root ++ listedFragments l.store
        events := l.loadEvents }

/-! ## Validating -/

/-- The directory whose settings hold for a location: itself, or else the one it is in. -/
def settingsDirectory (disk : Disk) (root location : String) : String :=
  if disk.isDirectory location then location else (Location.parent? location).getD root

/-- Validates a location, or else the root. -/
def Outcome.validation [Objections] (s : Situation) (root : String) (location : Option String) :
    Outcome :=
  let location := location.getD root
  match Config.load s.disk (settingsDirectory s.disk root location) with
  | .error e => .failed s [] e
  | .ok config =>
    match validate s.disk location config with
    | .error e => .failed s [] e
    | .ok [] => { disk := s.disk, printed := location ++ ": all templates are valid.\n" }
    | .ok problems =>
      { disk := s.disk
        reported := String.join (problems.map fun d => d.text ++ "\n")
        result := .error (.other (.invalidTemplates problems.length)) }

/-! ## Generating -/

/-- Whether a location stands for the standard input. -/
def isStandardInput (location : String) : Bool := Location.steps location = [.name "-"]

/-- The text in a location. -/
def inputText (s : Situation) (location : String) : Except Error String :=
  match if isStandardInput location then s.input else s.disk.read location with
  | .ok text => .ok text
  | .error fault => .error (.file fault)

/-- Whether the context in a location is a document, and not in the strict notation of data. -/
def holdsDocument (location : String) : Bool :=
  isStandardInput location || Location.hasExtension location ["yaml", "yml"]

/-- The context in a location, or else the empty one. -/
def readContext [Objections] (s : Situation) : Option String → Except Error Context
  | none => .ok .empty
  | some location =>
    match inputText s location with
    | .error e => .error e
    | .ok text =>
      if holdsDocument location then Context.readDocument text else Context.readData text

/-- A request for what the options say; what they do not say is left to the settings. -/
def requestOf (o : GenerateOptions) (config : Config) : Request :=
  ⟨o.key.platform, o.key.documentType, o.key.techStack,
    if o.strict then .strict else config.strictness⟩

/-- A generated document in the wanted format. -/
def formatted (format : OutputFormat) (o : Output) : String :=
  match format with
  | .text => o.text
  | .data => o.written.indented

/-- Hands a document out: to a file, or to the standard output with a line feed behind it. -/
def handOut (s : Situation) (options : GenerateOptions) (o : Output) : Outcome :=
  let content := formatted options.format o
  match options.output with
  | none => { disk := s.disk, printed := content ++ "\n" }
  | some location =>
    match s.disk.write location content s.time with
    | .ok disk => { disk := disk, events := [.wrote location] }
    | .error fault => .failed s [] (.file fault)

/-- What there is to tell about a document that was generated. -/
def renderedEvents (o : Output) : List Event :=
  .rendered o.templateId o.path :: o.warnings.map .warning

/-- Ends a generation: hands out its document, or what stands in for it. -/
def finish (s : Situation) (options : GenerateOptions) (events : List Event) :
    Except Failure Output → Outcome
  | .ok o =>
    let handedOut := handOut s options o
    { handedOut with events := events ++ renderedEvents o ++ handedOut.events }
  | .error f =>
    match f.degraded with
    | none => { disk := s.disk, events := events, result := .error (.generation f) }
    | some o =>
      let handedOut := handOut s options o
      let result := match handedOut.result with
        | .ok _ => .error (.generation f)
        | .error e => .error e
      { handedOut with
        events := events ++ .emittingFallback f.templateId :: handedOut.events, result := result }

/-- Generates one document. -/
def Outcome.generation [Objections] (s : Situation) (root : String) (options : GenerateOptions) :
    Outcome :=
  match Engine.load s.disk root with
  | .error e => .failed s [] e
  | .ok engine =>
    let loaded := engine.library.loadEvents
    match readContext s options.context with
    | .error e => .failed s loaded e
    | .ok context =>
      let session : Session := ⟨engine, Cache.withSeconds engine.config.cacheSeconds⟩
      let step := session.generate s.disk (1000 * s.time) (requestOf options engine.config) context
      finish s options (loaded ++ step.events) step.result

/-- Carries a command out. -/
def Invocation.run [Objections] (i : Invocation) (s : Situation) : Outcome :=
  match i.command with
  | .generate options => Outcome.generation s i.root options
  | .list => Outcome.listing s i.root
  | .validate location => Outcome.validation s i.root location

end CommandLine

end Docket
