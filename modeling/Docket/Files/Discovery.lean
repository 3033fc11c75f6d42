import Docket.Config.Basic
import Docket.Files.Disk
import Docket.Files.Glob

/-!
# Discovery

Which files of a directory are templates: those that match a pattern of the configuration and no
pattern that is to be ignored. Some patterns are always ignored, among them the configuration
itself.
-/

namespace Docket

/-- Which files are templates. -/
structure Discovery where
  admitted : Globs
  ignored : Globs

namespace Discovery

/-- What is never a template. -/
def alwaysIgnored : List String :=
  [".git/**", ".hg/**", ".svn/**", "**/.DS_Store", "ticketsmith.yaml", "ticketsmith.yml",
   "ticketsmith.json"]

/-- The discovery that a configuration asks for. -/
def ofConfig [Objections] (c : Config) : Except Error Discovery :=
  match Globs.ofTexts c.templateGlobs with
  | .error e => .error e
  | .ok admitted =>
    match Globs.ofTexts (alwaysIgnored ++ c.ignore) with
    | .error e => .error e
    | .ok ignored => .ok ⟨admitted, ignored⟩

/-- Whether a file in a location relative to the directory is a template. -/
def admits (d : Discovery) (location : String) : Bool :=
  d.admitted.matchesAny location && !d.ignored.matchesAny location

/-- The template files of a directory, in the order of their locations. -/
def files (d : Discovery) (disk : Disk) (root : String) : Except Error (List FoundFile) :=
  match disk.files root with
  | .error fault => .error (.unsearchable root fault)
  | .ok found => .ok (found.filter fun f => d.admits (Location.relativeTo f.location root))

/-- The location of a file relative to the directory, and the time of its last change. -/
def stamp (root : String) (f : FoundFile) : String × Int :=
  (Location.relativeTo f.location root, f.modified)

/-- Locations and times of the template files of a directory. Any file added, removed, renamed or
changed makes a difference. -/
def stamps (root : String) (files : List FoundFile) : List (String × Int) := files.map (stamp root)

end Discovery

end Docket
