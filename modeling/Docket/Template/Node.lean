import Docket.Filter.Basic
import Docket.Path.Basic
import Docket.Value.Basic

/-!
# Bodies as trees

The body of a section is a sequence of texts, expressions and blocks; a block has bodies of its own.
-/

namespace Docket.Template

/-- A filter with its arguments. -/
structure FilterCall where
  filter : Filter
  args : List Value

/-- A reference piped through filters. -/
structure Expression where
  path : Path
  filters : List FilterCall

/-- An expression that starts with `default` does without a value. -/
def Expression.acceptsAbsence (e : Expression) : Bool :=
  match e.filters with
  | call :: _ => call.filter = .default
  | [] => false

/-- One piece of a body. A condition shows its first part if the path is true and its second part
otherwise; a loop shows its first part for every item and its second part if there is none. -/
inductive Node where
  | text (s : String)
  | expr (e : Expression)
  | block (kind : BlockKind) (path : Path) (body otherwise : List Node)

end Docket.Template
