import Docket.Error
import Docket.Files.Location

/-!
# Disks

What is on a disk, as a value. A directory holds files and directories under increasing names; a
file has the time of its last change and a text, unless its bytes are no text.

## Finding

`Disk.find` follows a location from the working directory, or from the top. Every piece of a
location has to lead out of a directory, a single point and an empty piece included; above the top
is the top.

## Changing

Writing a file makes the directories above it first. `Disk.files` lists the files below a directory
in the order of their locations.
-/

namespace Docket

/-- What a directory can hold. -/
inductive DiskEntry where
  /-- A file with its text, if it is text, and the time of its last change. -/
  | file (text : Option String) (modified : Int)
  | directory (entries : List (String × DiskEntry))
deriving Inhabited

/-- A file that was found below a directory. -/
structure FoundFile where
  location : String
  text : Option String
  modified : Int
deriving DecidableEq, Repr

namespace DiskEntry

/-- An empty directory. -/
def emptyDirectory : DiskEntry := directory []

/-- What is found by going down through names. -/
def below? (e : DiskEntry) : List String → Option DiskEntry
  | [] => some e
  | name :: rest =>
    match e with
    | file _ _ => none
    | directory entries => (entries.lookup name).bind (below? · rest)

/-- Changes what is under a name; nothing in the place of something removes it. -/
def alter (name : String) (f : Option DiskEntry → Option DiskEntry) :
    List (String × DiskEntry) → List (String × DiskEntry)
  | [] => (f none).toList.map fun e => (name, e)
  | (n, e) :: rest =>
    if name < n then ((f none).toList.map fun e => (name, e)) ++ (n, e) :: rest
    else if name = n then ((f (some e)).toList.map fun e => (name, e)) ++ rest
    else (n, e) :: alter name f rest

/-- Changes what is found by going down through names. Nothing changes where no directory leads
there. -/
def alterBelow (f : Option DiskEntry → Option DiskEntry) :
    List String → Option DiskEntry → Option DiskEntry
  | [], e => f e
  | name :: rest, some (directory entries) =>
    some (directory (alter name (alterBelow f rest) entries))
  | _ :: _, e => e

mutual

/-- The files at and below an entry in a given location. -/
def files (location : String) : DiskEntry → List FoundFile
  | .file text modified => [⟨location, text, modified⟩]
  | .directory entries => filesOf location entries

/-- The files at and below the entries of the directory in a given location. -/
def filesOf (location : String) : List (String × DiskEntry) → List FoundFile
  | [] => []
  | (name, e) :: rest => files (Location.join location name) e ++ filesOf location rest

end

end DiskEntry

/-- Everything on a disk, and the names that lead from the top to the working directory. -/
structure Disk where
  top : DiskEntry
  working : List String
deriving Inhabited

namespace Disk

/-! ## Finding -/

/-- Follows pieces of a location from a place; places are the names that lead there from the top. -/
def follow (top : DiskEntry) : (place pieces : List String) → Except FileFault (List String)
  | place, [] => .ok place
  | place, piece :: rest =>
    match top.below? place with
    | some (.directory entries) =>
      if piece = "" ∨ piece = "." then follow top place rest
      else if piece = ".." then follow top place.dropLast rest
      else if (entries.lookup piece).isSome then follow top (place ++ [piece]) rest
      else .error .notFound
    | some (.file _ _) => .error .notDirectory
    | none => .error .notFound

/-- The pieces of a location between its slashes. -/
def pieces (location : String) : List String :=
  (Text.splitAll (· == '/') location.toList).map String.ofList

/-- Where a location starts. -/
def start (d : Disk) (location : String) : List String :=
  if Location.isAbsolute location.toList then [] else d.working

/-- The place that a location leads to. -/
def place (d : Disk) (location : String) : Except FileFault (List String) :=
  if location.isEmpty then .error .notFound
  else follow d.top (d.start location) (pieces location)

/-- What is in a location. -/
def find (d : Disk) (location : String) : Except FileFault DiskEntry :=
  match d.place location with
  | .error f => .error f
  | .ok place =>
    match d.top.below? place with
    | some e => .ok e
    | none => .error .notFound

/-- Whether a location holds a file. -/
def isFile (d : Disk) (location : String) : Bool :=
  match d.find location with
  | .ok (.file _ _) => true
  | _ => false

/-- Whether a location holds a directory. -/
def isDirectory (d : Disk) (location : String) : Bool :=
  match d.find location with
  | .ok (.directory _) => true
  | _ => false

/-- The text of a file. -/
def read (d : Disk) (location : String) : Except FileFault String :=
  match d.find location with
  | .error f => .error f
  | .ok (.directory _) => .error .isDirectory
  | .ok (.file text _) =>
    match text with
    | some s => .ok s
    | none => .error .notText

/-- The files at and below a location, in the order of their locations. -/
def files (d : Disk) (location : String) : Except FileFault (List FoundFile) :=
  match d.find location with
  | .error f => .error f
  | .ok e => .ok (e.files location)

/-! ## Changing -/

/-- Changes what is in a place. -/
def alter (d : Disk) (f : Option DiskEntry → Option DiskEntry) (place : List String) : Disk :=
  { d with top := (DiskEntry.alterBelow f place (some d.top)).getD d.top }

/-- Makes the directories that pieces lead through from a place, as far as they are missing. -/
def makeThrough (d : Disk) : (place pieces : List String) → Except FileFault Disk
  | _, [] => .ok d
  | place, piece :: rest =>
    if piece = "" ∨ piece = "." then makeThrough d place rest
    else if piece = ".." then makeThrough d place.dropLast rest
    else
      let inner := place ++ [piece]
      match d.top.below? inner with
      | some (.directory _) => makeThrough d inner rest
      | some (.file _ _) =>
        .error (if rest.all fun p => p = "" ∨ p = "." then .exists else .notDirectory)
      | none => makeThrough (d.alter (fun _ => some .emptyDirectory) inner) inner rest

/-- Makes a directory and those above it. -/
def makeDirectories (d : Disk) (location : String) : Except FileFault Disk :=
  d.makeThrough (d.start location) (pieces location)

/-- Puts a text into the file of a name in a place. -/
def writeAt (d : Disk) (place : List String) (name text : String) (modified : Int) :
    Except FileFault Disk :=
  if name = "." ∨ name = ".." then .error .isDirectory
  else
    let inner := place ++ [name]
    match d.top.below? inner with
    | some (.directory _) => .error .isDirectory
    | _ => .ok (d.alter (fun _ => some (.file (some text) modified)) inner)

/-- Writes a file, after making the directories above it. -/
def write (d : Disk) (location text : String) (modified : Int) : Except FileFault Disk :=
  match d.makeDirectories ((Location.parent? location).getD "") with
  | .error f => .error f
  | .ok d =>
    let pieces := pieces location
    let name := pieces.getLast?.getD ""
    if name = "" then .error .isDirectory
    else
      match follow d.top (d.start location) pieces.dropLast with
      | .error f => .error f
      | .ok place =>
        match d.top.below? place with
        | some (.directory _) => d.writeAt place name text modified
        | some (.file _ _) => .error .notDirectory
        | none => .error .notFound

/-- Changes the time of a file's last change. -/
def touch (d : Disk) (location : String) (modified : Int) : Disk :=
  match d.place location with
  | .error _ => d
  | .ok place =>
    d.alter (fun
      | some (.file text _) => some (.file text modified)
      | e => e) place

/-- Removes a file or a directory with everything below. -/
def remove (d : Disk) (location : String) : Disk :=
  match d.place location with
  | .error _ => d
  | .ok place => d.alter (fun _ => none) place

/-- Moves a file or a directory to another location, the times of last changes with it. -/
def rename (d : Disk) (source target : String) : Disk :=
  match d.find source, Location.parent? target, Location.lastName? target with
  | .ok e, some parent, some name =>
    match (d.remove source).makeDirectories parent with
    | .error _ => d
    | .ok d' =>
      match if parent.isEmpty then .ok d'.working else d'.place parent with
      | .error _ => d
      | .ok place => d'.alter (fun _ => some e) (place ++ [name])
  | _, _, _ => d

end Disk

end Docket
