import Docket.CommandLine.Basic

/-!
# Arguments

`Invocation.read` makes an invocation of the arguments of a command line.

## What is given

Options and words are taken in one after another, first those before the command, then those behind
it. The first fault counts. A word or a value is only settled when the next option or word comes, or
at the end; until then it is pending, and an unknown argument that follows is reported instead.

## Two places

The root and the verbosity may be given in both places; the place behind the command counts more.
The root may come from the environment instead.
-/

namespace Docket.CommandLine

/-! ## What is given -/

/-- What is given in one place. -/
structure Given where
  /-- How often more is wanted to be told, if at all. -/
  verbosity : Option Nat := none
  strict : Bool := false
  settings : List (Setting × String) := []
  words : List String := []
deriving Repr

namespace Given

/-- The value of a setting. -/
def value? (g : Given) (s : Setting) : Option String := g.settings.lookup s

/-- Takes a switch in. -/
def switch (g : Given) : Switch → Except Halt Given
  | .verbose => .ok { g with verbosity := some (g.verbosity.getD 0 + 1) }
  | .help => .error .help
  | .version => .error .version
  | .strict => if g.strict then .error .repeated else .ok { g with strict := true }

/-- Whether a setting accepts a value. -/
def accepts : Setting → String → Bool
  | .format, value => (OutputFormat.ofName? value).isSome
  | _, value => !value.isEmpty

/-- Takes a setting in. -/
def set (g : Given) (s : Setting) (value : String) : Except Halt Given :=
  if (g.value? s).isSome then .error .repeated
  else if accepts s value then .ok { g with settings := g.settings ++ [(s, value)] }
  else .error .badValue

end Given

/-- What has been read, but not been settled. -/
inductive Pending where
  | nothing
  /-- A setting without its value. -/
  | setting (s : Setting)
  | value (s : Setting) (text : String)
  | word (text : String)
deriving Repr

/-- A reader of arguments in one place. -/
structure Reader where
  given : Given := {}
  pending : Pending := .nothing
  /-- Whether there are no more options, only words. -/
  optionsEnded : Bool := false
deriving Repr

namespace Reader

/-- Settles what is pending. -/
def settle (r : Reader) (p : Place) : Except Halt Reader :=
  match r.pending with
  | .nothing => .ok r
  | .setting _ => .error .badValue
  | .value s text =>
    match r.given.set s text with
    | .ok given => .ok { r with given := given, pending := .nothing }
    | .error h => .error h
  | .word text =>
    if text.isEmpty && !p.allowsEmptyWords then .error .badValue
    else
      .ok { r with given := { r.given with words := r.given.words ++ [text] }, pending := .nothing }

/-- Settles what is pending and takes a switch in. -/
def switch (r : Reader) (p : Place) (s : Switch) : Except Halt Reader :=
  match r.settle p with
  | .error h => .error h
  | .ok r =>
    match r.given.switch s with
    | .error h => .error h
    | .ok given => .ok { r with given := given }

/-- Settles what is pending and takes a setting with its value in. -/
def set (r : Reader) (p : Place) (s : Setting) (value : List Char) : Except Halt Reader :=
  match r.settle p with
  | .error h => .error h
  | .ok r =>
    match r.given.set s (String.ofList value) with
    | .error h => .error h
    | .ok given => .ok { r with given := given }

/-- Settles what was pending; something else is pending now. -/
def await (r : Reader) (p : Place) (next : Pending) : Except Halt Reader :=
  match r.settle p with
  | .error h => .error h
  | .ok r => .ok { r with pending := next }

/-- Takes an option of a long name in, with the value behind an equals sign, if there is one. -/
def long (r : Reader) (p : Place) (name : List Char) (value : Option (List Char)) :
    Except Halt Reader :=
  match p.flag? (String.ofList name), value with
  | none, _ => .error .unknownArgument
  | some (.switch s), none => r.switch p s
  | some (.switch _), some _ => .error .surplusValue
  | some (.setting s), none => r.await p (.setting s)
  | some (.setting s), some value => r.set p s value

/-- Takes options of short names in. What follows the name of a setting is its value. -/
def short (p : Place) : List Char → Reader → Except Halt Reader
  | [], r => .ok r
  | c :: rest, r =>
    match p.shortFlag? c with
    | none => .error .unknownArgument
    | some (.switch s) =>
      match r.switch p s with
      | .error h => .error h
      | .ok r => short p rest r
    | some (.setting s) =>
      match rest with
      | [] => r.await p (.setting s)
      | '=' :: value => r.set p s value
      | value => r.set p s value

/-- How many words have been read. -/
def wordCount (r : Reader) : Nat :=
  r.given.words.length +
    match r.pending with
    | .word _ => 1
    | _ => 0

/-- The fault of a word too many. Before the command, any word but a command's is one. -/
def surplus (r : Reader) (p : Place) (text : String) : Halt :=
  match p with
  | .front =>
    if r.optionsEnded && (CommandWord.ofText? text).isSome then .unknownArgument
    else .unknownCommand
  | .behind _ => .unknownArgument

/-- Takes a word in. -/
def word (r : Reader) (p : Place) (text : String) : Except Halt Reader :=
  if r.wordCount < p.words then r.await p (.word text) else .error (r.surplus p text)

/-- Takes an argument in that is no word for a command. -/
def argument (r : Reader) (p : Place) (text : String) : Except Halt Reader :=
  if r.optionsEnded then r.word p text
  else
    match text.toList, r.pending with
    | ['-', '-'], _ => .ok { r with optionsEnded := true }
    | '-' :: '-' :: name, _ =>
      r.long p (name.takeWhile (· ≠ '=')) ((name.dropWhile (· ≠ '=')).tail?)
    | '-' :: c :: rest, _ => short p (c :: rest) r
    | _, .setting s => .ok { r with pending := .value s text }
    | _, _ => r.word p text

/-- The command that an argument stands for. A value that is waited for is no command, and there is
one command only. -/
def command? (r : Reader) (p : Place) (text : String) : Option CommandWord :=
  match p, r.optionsEnded, r.pending with
  | .behind _, _, _ | _, true, _ | _, _, .setting _ => none
  | .front, false, _ => CommandWord.ofText? text

/-- Takes arguments in, up to the command if there is one. -/
def arguments (p : Place) :
    List String → Reader → Except Halt (Reader × Option (CommandWord × List String))
  | [], r => .ok (r, none)
  | text :: rest, r =>
    match r.command? p text with
    | some word => .ok (r, some (word, rest))
    | none =>
      match r.argument p text with
      | .error h => .error h
      | .ok r => arguments p rest r

end Reader

/-! ## Two places -/

/-- The root from the environment, where it is wanted and there. It has to be acceptable then. -/
def checkEnvironment (g : Given) (root : Option String) : Except Halt Unit :=
  match g.value? .root, root with
  | none, some root => if Given.accepts .root root then .ok () else .error .badValue
  | _, _ => .ok ()

/-- Brings a place to its end. -/
def Reader.finish (r : Reader) (p : Place) (root : Option String) : Except Halt Given :=
  match r.settle p with
  | .error h => .error h
  | .ok r =>
    match checkEnvironment r.given root with
    | .error h => .error h
    | .ok _ =>
      if r.given.words.length < p.requiredWords then .error .wordMissing else .ok r.given

/-- What is given behind a command. -/
def readBehind (name : CommandName) (root : Option String) (arguments : List String) :
    Except Halt Given :=
  match Reader.arguments (.behind name) arguments {} with
  | .error h => .error h
  | .ok (r, _) => r.finish (.behind name) root

/-- What asking for help comes to. Help can be asked for about a single command. -/
def helpAbout : List String → Halt
  | [] => .help
  | [word] => if (CommandWord.ofText? word).isSome then .help else .unknownCommand
  | _ => .unknownCommand

/-- A command with what is given behind it. -/
def commandOf (name : CommandName) (g : Given) : Command :=
  match name with
  | .generate =>
    .generate
      { key := ⟨g.words.getD 0 "", g.words.getD 1 "", g.words.getD 2 ""⟩
        context := g.value? .context
        strict := g.strict
        format := ((g.value? .format).bind OutputFormat.ofName?).getD .text
        output := g.value? .output }
  | .list => .list
  | .validate => .validate g.words.head?

/-- The directory of templates unless another is given. -/
def defaultRoot : String := "templates"

/-- What is given in both places, put together. -/
def combine (front behind : Given) (root : Option String) (name : CommandName) : Invocation where
  verbosity := (behind.verbosity.or front.verbosity).getD 0
  root := (((behind.value? .root).or (front.value? .root)).or root).getD defaultRoot
  command := commandOf name behind

/-- What a command line without a command comes to. -/
def withoutCommand (g : Given) (root : Option String) : Halt :=
  if g.verbosity.isNone && g.settings.isEmpty && root.isNone then .nothingGiven else .commandMissing

/-- Reads the arguments of a command line, with the root that the environment gives. -/
def Invocation.read (root : Option String) (arguments : List String) : Except Halt Invocation :=
  match Reader.arguments .front arguments {} with
  | .error h => .error h
  | .ok (_, some (.help, rest)) => .error (helpAbout rest)
  | .ok (r, some (.command name, rest)) =>
    match readBehind name root rest with
    | .error h => .error h
    | .ok behind =>
      match r.finish .front root with
      | .error h => .error h
      | .ok front => .ok (combine front behind root name)
  | .ok (r, none) =>
    match r.finish .front root with
    | .error h => .error h
    | .ok front => .error (withoutCommand front root)

end Docket.CommandLine
