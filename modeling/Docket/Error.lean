/-!
# Errors

Everything that can go wrong is a cause; `Error.message` is the only place that words it.

## Causes

`FileFault` and `Imbalance` are the causes that have several forms of their own. `Refusal` says why
a configuration, or a renderer, declines.

## Classes of causes

`Error.isRender` singles out the causes that concern one resolution or one rendering. They end a
command with their own exit code.
-/

namespace Docket

/-! ## Causes -/

/-- Why a file could not be read or written. -/
inductive FileFault where
  | notFound
  | exists
  | notDirectory
  | isDirectory
  | notText
deriving DecidableEq, Repr

/-- The wording of a file fault. -/
def FileFault.message : FileFault → String
  | notFound => "No such file or directory (os error 2)"
  | .exists => "File exists (os error 17)"
  | notDirectory => "Not a directory (os error 20)"
  | isDirectory => "Is a directory (os error 21)"
  | notText => "stream did not contain valid UTF-8"

/-- The two kinds of blocks. -/
inductive BlockKind where
  | cond
  | loop
deriving DecidableEq, Repr

/-- The keyword of a block. -/
def BlockKind.keyword : BlockKind → String
  | cond => "if"
  | loop => "each"

/-- The ways in which the tags of a body fail to pair up. -/
inductive Imbalance where
  | elseOutside
  | secondElse (block : BlockKind)
  | unopened (block : BlockKind)
  | crossed (opened closed : BlockKind)
  | unclosed (block : BlockKind)
deriving DecidableEq, Repr

/-- The closing tag of a block between back quotes. -/
def BlockKind.closingTag (k : BlockKind) : String :=
  "`\x7b\x7b/" ++ k.keyword ++ "\x7d\x7d`"

/-- The block that an imbalance is reported for. -/
def Imbalance.block : Imbalance → String
  | elseOutside => "else"
  | secondElse k | unopened k | crossed k _ | unclosed k => k.keyword

/-- What is wrong with the block. -/
def Imbalance.detail : Imbalance → String
  | elseOutside => "`\x7b\x7b#else\x7d\x7d` outside of an `if` or `each` block"
  | secondElse _ => "more than one `\x7b\x7b#else\x7d\x7d` in the same block"
  | unopened k => k.closingTag ++ " without a matching opening tag"
  | crossed opened closed => "expected " ++ opened.closingTag ++ ", found " ++ closed.closingTag
  | unclosed k => "missing " ++ k.closingTag

/-- Why a configuration is not accepted, or a renderer declines its work. -/
inductive Refusal where
  | noGlobs
  | zeroLifetime
  | longLifetime (most : Nat)
  | declined (reason : String)
deriving DecidableEq, Repr

/-- The wording of a refusal. -/
def Refusal.message : Refusal → String
  | noGlobs => "template_globs must not be empty"
  | zeroLifetime => "cache_ttl_secs must be greater than zero"
  | longLifetime most => "cache_ttl_secs must not exceed " ++ toString most
  | declined reason => reason

/-- Everything that can go wrong, short of a failed generation with its history. -/
inductive Error where
  /-- A file could not be read or written. -/
  | file (fault : FileFault)
  /-- A text is not in the strict notation of data. -/
  | unreadableData (objection : String)
  /-- A text is not a document of data. -/
  | unreadableDocument (objection : String)
  /-- A pattern for paths is malformed. -/
  | badGlob (objection : String)
  /-- A file cannot be read in its notation, or does not hold what it should. -/
  | malformed (file : String) (line : Nat) (problem : String)
  /-- A directory could not be searched. -/
  | unsearchable (directory : String) (fault : FileFault)
  /-- Two files define the same template or fragment. -/
  | duplicate (key first second : String)
  /-- Inheritance reaches a fragment a second time. -/
  | cyclic (chain : List String)
  /-- A fragment that is referred to does not exist. -/
  | fragmentNotFound (name referencedBy : String)
  /-- A reference that the context and the schema leave without a value. -/
  | unresolved (path : String)
  /-- A filter that does not exist. -/
  | unknownFilter (name : String)
  /-- A value of the wrong type for a filter or a loop. -/
  | typeMismatch (path expected found : String)
  /-- Tags that do not pair up. -/
  | unbalanced (imbalance : Imbalance)
  /-- A tag or a path that means nothing. -/
  | invalidExpression (expression : String)
  /-- A context that is neither a map nor null. -/
  | invalidContext (found : String)
  /-- A configuration or a renderer declines. -/
  | refused (refusal : Refusal)
  /-- The directory of templates does not exist. -/
  | rootMissing (directory : String)
  /-- Validation found problems. -/
  | invalidTemplates (count : Nat)
  /-- Templates given in memory cannot be loaded again. -/
  | notLoaded
deriving DecidableEq, Repr

namespace Error

/-- The wording of an error. -/
def message : Error → String
  | file fault => "IO error: " ++ fault.message ++ "."
  | unreadableData objection => "Failed to parse JSON. Original error: " ++ objection
  | unreadableDocument objection => "Failed to parse YAML. Original error: " ++ objection
  | badGlob objection => "Failed to build glob set. Original error: " ++ objection
  | malformed path line problem => path ++ ":" ++ toString line ++ ": " ++ problem
  | unsearchable directory fault =>
    "Failed to walk template directory. Original error: IO error for operation on " ++ directory
      ++ ": " ++ fault.message
  | duplicate key first second =>
    "Duplicate definition for '" ++ key ++ "' in '" ++ second ++ "' (first defined in '" ++ first
      ++ "')."
  | cyclic chain => "Cyclic inheritance: " ++ " -> ".intercalate chain ++ "."
  | fragmentNotFound name referencedBy =>
    "Fragment '" ++ name ++ "' referenced by '" ++ referencedBy ++ "' does not exist."
  | unresolved path => "Unresolved variable '" ++ path ++ "'."
  | unknownFilter name => "Unknown filter '" ++ name ++ "'."
  | typeMismatch path expected found =>
    "Type mismatch at '" ++ path ++ "': expected " ++ expected ++ ", found " ++ found ++ "."
  | unbalanced imbalance =>
    "Unbalanced block '" ++ imbalance.block ++ "': " ++ imbalance.detail ++ "."
  | invalidExpression expression => "Invalid expression '" ++ expression ++ "'."
  | invalidContext found =>
    "Invalid render context: the context must be a map, found " ++ found ++ "."
  | refused refusal => "Configuration error: " ++ refusal.message ++ "."
  | rootMissing directory =>
    "Cannot proceed: template directory '" ++ directory ++ "' does not exist."
  | invalidTemplates count => "Validation failed: " ++ toString count ++ " problem(s) found."
  | notLoaded => "templates were not loaded from disk, there is nothing to reload"

/-! ## Classes of causes -/

/-- The causes that concern a single resolution or rendering. -/
def isRender : Error → Bool
  | cyclic _ | fragmentNotFound _ _ | unresolved _ | unknownFilter _ | typeMismatch _ _ _
  | unbalanced _ | invalidExpression _ => true
  | _ => false

/-- The error of a computation that fails. -/
def of? {α : Type} : Except Error α → Option Error
  | .ok _ => none
  | .error e => some e

/-- The exit code of a command that ends with this error. -/
def exitCode (e : Error) : Nat := if e.isRender then 2 else 1

end Error

end Docket
