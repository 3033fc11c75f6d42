import Docket.Error

/-!
# What readers object to

Texts are read in three notations: as documents, in the strict notation of data, and as patterns for
locations. Whether a text is in its notation is settled here. How a reader words its objection to
one that is not, and which line it names, is up to that reader: `Objections` stands for all of that,
and whatever reads texts takes it as an instance. Nothing is assumed about it.
-/

namespace Docket

/-- What a reader has to say about a text that it cannot read. -/
structure Objection where
  /-- The line on which it gave up, counted from one, if it names one. -/
  line? : Option Nat
  wording : String
deriving DecidableEq, Repr

/-- The error of a file that its reader objects to; without a line, the first one counts. -/
def Objection.error (file : String) (o : Objection) : Error :=
  .malformed file (o.line?.getD 1) o.wording

/-- The objections of the readers, by what was to be read. -/
class Objections where
  /-- To a text that is no document, in the place of a definition. -/
  definition (text : String) : Objection
  /-- To a text that is no document, in the place of a configuration. -/
  config (text : String) : Objection
  /-- To a text that is not in the strict notation, in the place of a configuration. -/
  configData (text : String) : Objection
  /-- The line and the column that a reader of the strict notation names for a problem with what a
  text holds, if it names any. -/
  place? (text problem : String) : Option (Nat × Nat)
  /-- To a text that is no document of data, in the place of a context. -/
  context (text : String) : String
  /-- To a text that is not in the strict notation, in the place of a context. -/
  contextData (text : String) : String
  /-- To a pattern for locations. -/
  glob (pattern : String) : String

/-- Readers that say no more than that they cannot read a text. -/
@[reducible] def Objections.terse : Objections where
  definition _ := ⟨none, "not a readable document"⟩
  config _ := ⟨none, "not a readable document"⟩
  configData _ := ⟨none, "not in the notation of data"⟩
  place? _ _ := none
  context _ := "not a readable document"
  contextData _ := "not in the notation of data"
  glob pattern := "malformed pattern '" ++ pattern ++ "'"

end Docket
