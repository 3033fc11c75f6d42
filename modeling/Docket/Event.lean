import Docket.Error

/-!
# Events

What happens while templates are loaded and rendered is told as events. An event has a level, by
which it can be left out, and a text.
-/

namespace Docket

/-- How much an event matters. -/
inductive Level where
  | error
  | warn
  | info
  | debug
  | trace
deriving DecidableEq, Repr

namespace Level

/-- The name of a level in a record. -/
def name : Level → String
  | .error => "ERROR"
  | warn => "WARN"
  | info => "INFO"
  | debug => "DEBUG"
  | trace => "TRACE"

/-- The rank of a level; the higher, the less it matters. -/
def rank : Level → Nat
  | .error => 0
  | warn => 1
  | info => 2
  | debug => 3
  | trace => 4

/-- Whether events of a level are told where `most` is the least that is told. -/
def within (level most : Level) : Bool := level.rank ≤ most.rank

end Level

/-- Labels with arrows between them. -/
def trail (labels : List String) : String := " -> ".intercalate labels

/-- Something that happened. -/
inductive Event where
  /-- A fragment that nothing can inherit from. -/
  | uselessFragment (name : String) (cause : Error)
  /-- A template that cannot be merged. -/
  | unusableTemplate (key : String) (cause : Error)
  | loaded (templates fragments : Nat) (root : String)
  | reloaded (root : String) (generation : Nat)
  /-- A generation failed, and the built-in template is rendered in its place. -/
  | fallingBack (failure : String)
  /-- The built-in template failed, too. -/
  | fallbackFailed (cause : Error)
  | rendered (template : String) (path : List String)
  | warning (text : String)
  | emittingFallback (template : String)
  | wrote (file : String)
deriving DecidableEq, Repr

namespace Event

/-- How much an event matters. -/
def level : Event → Level
  | unusableTemplate _ _ => .error
  | uselessFragment _ _ | fallingBack _ | fallbackFailed _ | warning _ | emittingFallback _ => .warn
  | loaded _ _ _ | reloaded _ _ | rendered _ _ | wrote _ => .info

/-- The wording of an event. -/
def text : Event → String
  | uselessFragment name cause => "Fragment '" ++ name ++ "' cannot be inherited: " ++ cause.message
  | unusableTemplate key cause => "Template '" ++ key ++ "' is unusable: " ++ cause.message
  | loaded templates fragments root =>
    "Loaded " ++ toString templates ++ " templates and " ++ toString fragments ++ " fragments from "
      ++ root
  | reloaded root generation =>
    "Reloaded templates from " ++ root ++ " (generation " ++ toString generation ++ ")"
  | fallingBack failure => failure ++ "; falling back to the built-in default"
  | fallbackFailed cause => "Built-in default failed to render: " ++ cause.message
  | rendered template path => "Rendered " ++ template ++ " via " ++ trail path
  | warning text => text
  | emittingFallback template => "Emitting the built-in default in place of '" ++ template ++ "'"
  | wrote file => "Wrote " ++ file

/-- An event as one line of a log. -/
def line (e : Event) : String := e.level.name ++ " " ++ e.text

/-- The events that matter at least as much as a level. -/
def upTo (most : Level) (events : List Event) : List Event :=
  events.filter fun e => e.level.within most

end Event

end Docket
