import Docket.CommandLine.Arguments
import Docket.CommandLine.Run
import Docket.CommandLine.Usage

/-!
# The program

Reads the command line, takes in the part of the disk that the command is about, runs the command
and carries out what it decided.
-/

namespace Docket.CommandLine

/-! ## Taking in the disk -/

/-- How many directories below one another are taken in at most. -/
def mostDepth : Nat := 256

/-- The location of a place, from the top. -/
def located (place : List String) : String := "/" ++ "/".intercalate place

/-- What is in a location, directories down to a depth. -/
def takeEntry? (depth : Nat) (location : String) : IO (Option DiskEntry) := do
  try
    let path := System.mkFilePath [location]
    let data ← path.metadata
    if data.type == .dir then
      match depth with
      | 0 => return some .emptyDirectory
      | depth + 1 =>
        let mut entries := []
        for found in ← path.readDir do
          if let some e ← takeEntry? depth (Location.join location found.fileName) then
            entries := DiskEntry.alter found.fileName (fun _ => some e) entries
        return some (.directory entries)
    else
      return some (.file (String.fromUTF8? (← IO.FS.readBinFile location)) data.modified.sec)
  catch _ => return none

/-- Takes in a place that is not there yet. -/
def takePlace (depth : Nat) (place : List String) (d : Disk) : IO Disk := do
  match d.top.below? place with
  | some (.file _ _) => return d
  | known =>
    if known.isSome && depth = 0 then return d
    else
      match ← takeEntry? depth (located place) with
      | some e => return d.alter (fun _ => some e) place
      | none => return d

/-- Takes in the directories that pieces lead through from a place, and what is at their end. -/
def takeThrough (depth : Nat) : (pieces place : List String) → Disk → IO Disk
  | [], place, d => takePlace depth place d
  | piece :: rest, place, d => do
    let inner :=
      if piece = "" ∨ piece = "." then place
      else if piece = ".." then place.dropLast
      else place ++ [piece]
    takeThrough depth rest inner (← takePlace 0 inner d)

/-- Takes in a location. -/
def takeIn (depth : Nat) (d : Disk) (location : String) : IO Disk :=
  takeThrough depth (Disk.pieces location) (d.start location) d

/-- The locations that a command is about, with the depth to which they matter. -/
def concerned (i : Invocation) : List (String × Nat) :=
  match i.command with
  | .generate options =>
    (i.root, mostDepth) :: (options.context.toList ++ options.output.toList).map fun l => (l, 0)
  | .list => [(i.root, mostDepth)]
  | .validate location =>
    let location := location.getD i.root
    let settings := Config.fileNames.map fun (name, _) =>
      (Location.join ((Location.parent? location).getD i.root) name, 0)
    (location, mostDepth) :: settings

/-- The part of the disk that a command is about. -/
def takeDisk (i : Invocation) : IO Disk := do
  let working := (← IO.currentDir).components.filter (· ≠ "")
  let d ← takeThrough 0 working [] ⟨.emptyDirectory, working⟩
  (concerned i).foldlM (fun d (location, depth) => takeIn depth d location) d

/-- Everything on the standard input, as far as it is there. -/
partial def takeInput (soFar : ByteArray) : IO ByteArray := do
  let more ← (← IO.getStdin).read 65536
  if more.isEmpty then return soFar else takeInput (soFar ++ more)

/-- The standard input, if a command reads it. -/
def inputOf (i : Invocation) : IO (Except FileFault String) := do
  match i.command with
  | .generate { context := some location, .. } =>
    if isStandardInput location then
      match String.fromUTF8? (← takeInput .empty) with
      | some text => return .ok text
      | none => return .error .notText
    else return .ok ""
  | _ => return .ok ""

/-! ## Carrying out -/

/-- Writes the file that a command wants to be written. -/
def carryOut (i : Invocation) (o : Outcome) : IO Unit := do
  if let .generate { output := some location, .. } := i.command then
    if o.events.contains (.wrote location) then
      if let .ok text := o.disk.read location then
        if let some parent := Location.parent? location then
          unless parent.isEmpty do IO.FS.createDirAll parent
        IO.FS.writeFile location text

/-- Runs an invocation and gives its exit code. -/
def perform [Objections] (i : Invocation) : IO UInt32 := do
  let o := i.run ⟨← takeDisk i, ← inputOf i, 0⟩
  let log ← IO.getStderr
  for e in Event.upTo (levelOf i.verbosity) o.events do
    log.putStrLn e.line
  (← IO.getStdout).putStr o.printed
  log.putStr o.reported
  carryOut i o
  if let .error e := o.result then
    log.putStrLn e.message
  return o.exitCode.toUInt32

/-- The variable of the environment that gives the directory of templates. -/
def rootVariable : String := "TICKETSMITH_TEMPLATE_ROOT"

end Docket.CommandLine

open Docket.CommandLine in
/-- Runs the program. -/
def main (args : List String) : IO UInt32 := do
  let _ : Docket.Objections := .terse
  match Invocation.read (← IO.getEnv rootVariable) args with
  | .ok i => perform i
  | .error h =>
    (← IO.getStdout).putStr h.printed
    (← IO.getStderr).putStr h.reported
    return h.exitCode.toUInt32
