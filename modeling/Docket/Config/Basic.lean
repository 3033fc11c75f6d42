import Docket.Error
import Docket.Request

/-!
# Configurations

What can be set for a directory of templates. Every setting has a default.
-/

namespace Docket

/-- The settings of a directory of templates. -/
structure Config where
  /-- Which files are templates. -/
  templateGlobs : List String := ["**/*.yaml", "**/*.yml"]
  /-- Which of them are not. -/
  ignore : List String := []
  /-- How many seconds generated documents stay in the cache. -/
  cacheSeconds : Nat := 300
  /-- The strictness of requests that do not say. -/
  strictness : Strictness := .lenient
  /-- Whether the built-in template stands in for one that fails. -/
  degradedFallback : Bool := false
  /-- What stands between rendered sections. -/
  separator : String := "\n\n"
deriving DecidableEq, Repr, Inhabited

namespace Config

/-- The most seconds that documents may stay in the cache: one week. -/
def mostSeconds : Nat := 7 * 24 * 60 * 60

/-- Checks the settings. -/
def check (c : Config) : Except Error Unit :=
  if c.templateGlobs.isEmpty then .error (.refused .noGlobs)
  else if c.cacheSeconds = 0 then .error (.refused .zeroLifetime)
  else if mostSeconds < c.cacheSeconds then .error (.refused (.longLifetime mostSeconds))
  else .ok ()

end Config

end Docket
