import Docket.Event
import Docket.Request

/-!
# Commands

What a command line can ask for.

## Options

A switch stands alone, a setting is followed by a value. Which of them may be used depends on the
place: before the command, or behind one. The global ones may stand in both places.

## Commands

`Invocation` is a command with everything that was said about it, `Halt` says why a command line
comes to none.
-/

namespace Docket.CommandLine

/-! ## Options -/

/-- Options without a value. -/
inductive Switch where
  | verbose
  | help
  | version
  | strict
deriving DecidableEq, Repr

/-- Options with a value. -/
inductive Setting where
  | root
  | context
  | format
  | output
deriving DecidableEq, Repr

/-- Anything that begins with a dash. -/
inductive Flag where
  | switch (s : Switch)
  | setting (s : Setting)
deriving DecidableEq, Repr

/-- The commands that do something. -/
inductive CommandName where
  | generate
  | list
  | validate
deriving DecidableEq, Repr

/-- What a word in the place of a command stands for. -/
inductive CommandWord where
  | command (name : CommandName)
  | help
deriving DecidableEq, Repr

/-- The words for commands; some have a second, shorter one. -/
def commandWords : List (String × CommandWord) :=
  [("generate", .command .generate), ("gen", .command .generate), ("list", .command .list),
   ("ls", .command .list), ("validate", .command .validate), ("help", .help)]

/-- The command that a word stands for. -/
def CommandWord.ofText? (word : String) : Option CommandWord := commandWords.lookup word

namespace Flag

/-- The long name of an option. -/
def long : Flag → String
  | switch .verbose => "verbose"
  | switch .help => "help"
  | switch .version => "version"
  | switch .strict => "strict"
  | setting .root => "root"
  | setting .context => "context"
  | setting .format => "format"
  | setting .output => "output"

/-- The short name of an option, if it has one. -/
def short? : Flag → Option Char
  | switch .verbose => some 'v'
  | switch .help => some 'h'
  | switch .version => some 'V'
  | setting .context => some 'c'
  | setting .output => some 'o'
  | _ => none

end Flag

/-- A place on a command line: before the command, or behind one. -/
inductive Place where
  | front
  | behind (command : CommandName)
deriving DecidableEq, Repr

namespace Place

/-- The options that may stand everywhere. -/
def globalFlags : List Flag := [.switch .verbose, .setting .root, .switch .help]

/-- The options of a place. -/
def flags : Place → List Flag
  | front => globalFlags ++ [.switch .version]
  | behind .generate =>
    globalFlags ++ [.setting .context, .switch .strict, .setting .format, .setting .output]
  | behind _ => globalFlags

/-- The option of a long name. -/
def flag? (p : Place) (name : String) : Option Flag := p.flags.find? fun f => f.long = name

/-- The option of a short name. -/
def shortFlag? (p : Place) (c : Char) : Option Flag := p.flags.find? fun f => f.short? = some c

/-- How many words a place takes besides options. -/
def words : Place → Nat
  | front => 0
  | behind .generate => 3
  | behind .list => 0
  | behind .validate => 1

/-- How many of them have to be there. -/
def requiredWords : Place → Nat
  | behind .generate => 3
  | _ => 0

/-- Whether a word may be empty. Locations may not. -/
def allowsEmptyWords : Place → Bool
  | behind .validate => false
  | _ => true

end Place

/-! ## Commands -/

/-- How a generated document is printed: its text alone, or everything about it. -/
inductive OutputFormat where
  | text
  | data
deriving DecidableEq, Repr

/-- The format of a name. -/
def OutputFormat.ofName? (name : String) : Option OutputFormat :=
  if name = "text" then some text
  else if name = "json" then some data
  else none

/-- What is said about a generation. -/
structure GenerateOptions where
  key : TemplateKey
  /-- The file that holds the context. -/
  context : Option String := none
  strict : Bool := false
  format : OutputFormat := .text
  /-- The file that the document is written to. -/
  output : Option String := none
deriving DecidableEq, Repr

/-- A command with what is said about it. -/
inductive Command where
  | generate (options : GenerateOptions)
  | list
  /-- Validates a location, or else the root. -/
  | validate (location : Option String)
deriving DecidableEq, Repr

/-- A command, where its templates are, and how much is told about it. -/
structure Invocation where
  verbosity : Nat
  root : String
  command : Command
deriving DecidableEq, Repr

/-- The least level that is told under a verbosity. -/
def levelOf : (verbosity : Nat) → Level
  | 0 => .warn
  | 1 => .info
  | 2 => .debug
  | _ => .trace

/-- Why a command line comes to no command. -/
inductive Halt where
  /-- Help is asked for. -/
  | help
  /-- The version is asked for. -/
  | version
  /-- There is nothing on the command line. -/
  | nothingGiven
  /-- There are options, but no command. -/
  | commandMissing
  /-- A word is missing behind a command. -/
  | wordMissing
  /-- An option that is not known in its place, or one word too many. -/
  | unknownArgument
  | unknownCommand
  /-- A setting without value, or with one that it does not accept. -/
  | badValue
  /-- An option that may be given once is repeated. -/
  | repeated
  /-- A switch has a value. -/
  | surplusValue
deriving DecidableEq, Repr

/-- Asking for help or for the version is no failure, everything else is. -/
def Halt.exitCode : Halt → Nat
  | .help | .version => 0
  | _ => 1

end Docket.CommandLine
