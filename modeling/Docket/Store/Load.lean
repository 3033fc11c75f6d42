import Docket.Definition.Read
import Docket.Files.Discovery
import Docket.Store.Basic

/-!
# Loading stores

`Library.load` reads all template files of a directory into a store. One file that cannot be read,
or two of the same identity, and nothing is loaded.

A library remembers where it comes from. It is stale once the template files there are no longer the
ones that were loaded.
-/

namespace Docket

/-- The text of a found file. -/
def FoundFile.read (f : FoundFile) : Except Error String :=
  match f.text with
  | some text => .ok text
  | none => .error (.file .notText)

/-- The definition in a found file. -/
def FoundFile.definition [Objections] (f : FoundFile) : Except Error Definition :=
  match f.read with
  | .error e => .error e
  | .ok text => Definition.read f.location text

/-- Where templates come from. -/
structure Origin where
  root : String
  discovery : Discovery
  /-- The template files that were loaded. -/
  stamps : List (String × Int)

/-- A store and where it comes from, unless it was made in memory. -/
structure Library where
  store : Store
  origin : Option Origin

namespace Library

/-- A library that was made in memory. -/
def ofStore (s : Store) : Library := ⟨s, none⟩

/-- The directory that a library comes from. -/
def root (l : Library) : String :=
  match l.origin with
  | some origin => origin.root
  | none => ""

/-- The store of some files. -/
def storeOf [Objections] (files : List FoundFile) : Except Error Store :=
  match files.mapM FoundFile.definition with
  | .error e => .error e
  | .ok definitions => Store.ofDefinitions definitions

/-- Loads the templates of a directory. -/
def load [Objections] (disk : Disk) (root : String) (config : Config) : Except Error Library :=
  if !disk.isDirectory root then .error (.rootMissing root)
  else
    match Discovery.ofConfig config with
    | .error e => .error e
    | .ok discovery =>
      match discovery.files disk root with
      | .error e => .error e
      | .ok files =>
        match storeOf files with
        | .error e => .error e
        | .ok store => .ok ⟨store, some ⟨root, discovery, Discovery.stamps root files⟩⟩

/-- What there is to tell about a library that has just been loaded. -/
def loadEvents (l : Library) : List Event :=
  l.store.complaints
    ++ [.loaded l.store.templates.length l.store.fragments.length l.root]

/-- Whether the template files are no longer those that were loaded. Libraries made in memory are
never stale. -/
def isStale (l : Library) (disk : Disk) : Except Error Bool :=
  match l.origin with
  | none => .ok false
  | some origin =>
    match origin.discovery.files disk origin.root with
    | .error e => .error e
    | .ok files => .ok (Discovery.stamps origin.root files ≠ origin.stamps)

end Library

end Docket
