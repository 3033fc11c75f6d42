/-!
# Filters

The closed set of filters that an expression may pipe a value through, with their names and the
number of arguments they take.
-/

namespace Docket

/-- A filter. -/
inductive Filter where
  | upper
  | lower
  | trim
  | capitalize
  | length
  | first
  | last
  | snakeCase
  | kebabCase
  | camelCase
  | pascalCase
  | screamingSnakeCase
  | trainCase
  | plural
  | singular
  | join
  | default
deriving DecidableEq, Repr

namespace Filter

/-- All filters. -/
def all : List Filter :=
  [upper, lower, trim, capitalize, length, first, last, snakeCase, kebabCase, camelCase, pascalCase,
   screamingSnakeCase, trainCase, plural, singular, join, default]

/-- The name of a filter in a template. -/
def name : Filter → String
  | upper => "upper"
  | lower => "lower"
  | trim => "trim"
  | capitalize => "capitalize"
  | length => "length"
  | first => "first"
  | last => "last"
  | snakeCase => "snake_case"
  | kebabCase => "kebab_case"
  | camelCase => "camel_case"
  | pascalCase => "pascal_case"
  | screamingSnakeCase => "screaming_snake_case"
  | trainCase => "train_case"
  | plural => "plural"
  | singular => "singular"
  | join => "join"
  | default => "default"

/-- The filter with a given name. -/
def ofName? (s : String) : Option Filter := all.find? (·.name = s)

/-- The least and the greatest number of arguments: `join` may take its separator, `default` needs
its value, no other filter has arguments. -/
def arity : Filter → Nat × Nat
  | join => (0, 1)
  | default => (1, 1)
  | _ => (0, 0)

/-- Whether a filter may take this many arguments. -/
def accepts (f : Filter) (count : Nat) : Bool := f.arity.1 ≤ count && count ≤ f.arity.2

end Filter

end Docket
