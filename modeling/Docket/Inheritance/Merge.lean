import Docket.Error
import Docket.Inheritance.Layer

/-!
# Merging

Merging a definition gathers everything that it inherits, base by base and from the bottom up, and
lays its own content over that.

## Fragments

Bases are names of fragments. Each name may be reached once in a merge, be it through a chain of
fragments or through two of them; the name of the definition itself counts as reached from the
start. So a merge ends: every step down reaches one more name, and there are only so many.

## Merged templates

`Definition.merge` gives a template that no longer depends on fragments, together with the names of
the fragments in the order in which they were laid down.
-/

namespace Docket

/-! ## Fragments -/

/-- Fragments by name. -/
abbrev Fragments := List (String × Definition)

namespace Inheritance

/-- How many fragments have not been reached. -/
def unreached (fragments : Fragments) (reached : List String) : Nat :=
  fragments.countP fun (name, _) => !reached.contains name

/-- Reaching more names leaves no more to reach. -/
theorem unreached_le {fragments : Fragments} {reached more : List String}
    (h : ∀ n ∈ reached, n ∈ more) : unreached fragments more ≤ unreached fragments reached := by
  refine List.countP_mono_left fun (name, _) _ hn => ?_
  simp only [Bool.not_eq_true', List.contains_eq_mem, decide_eq_false_iff_not] at hn ⊢
  exact fun hr => hn (h _ hr)

/-- Reaching the name of a fragment leaves fewer to reach. -/
theorem unreached_cons_lt {fragments : Fragments} {reached : List String} {name : String}
    {d : Definition} (hd : fragments.lookup name = some d) (hn : name ∉ reached) :
    unreached fragments (name :: reached) < unreached fragments reached := by
  induction fragments with
  | nil => simp at hd
  | cons entry rest ih =>
    obtain ⟨key, e⟩ := entry
    have hle : unreached rest (name :: reached) ≤ unreached rest reached :=
      unreached_le fun n h => List.mem_cons_of_mem _ h
    by_cases hk : name = key
    · subst hk
      simp only [unreached, List.countP_cons, List.contains_eq_mem, List.mem_cons, true_or,
        decide_true, Bool.not_true, hn, decide_false, Bool.not_false] at hle ⊢
      simp only [Bool.false_eq_true, ↓reduceIte] at hle ⊢
      omega
    · have hne : (name == key) = false := by simpa using hk
      have hd : rest.lookup name = some d := by simpa [List.lookup_cons, hne] using hd
      have hlt := ih hd
      simp only [unreached, List.countP_cons, List.contains_eq_mem, List.mem_cons] at hlt ⊢
      by_cases hr : key ∈ reached
      · simpa [hr] using hlt
      · simpa [hr, Ne.symm hk] using hlt

/-- What bases amount to, with the names reached by then. -/
structure Gathered (reached : List String) where
  layer : Layer
  /-- The fragments in the order in which they were laid down. -/
  lineage : List String
  reachedNow : List String
  keeps : ∀ n ∈ reached, n ∈ reachedNow

/-- Lays the bases of a definition over a layer, one after another. `chain` holds the names from the
merged definition down to the one whose bases these are, `referrer` is the identity of that one. -/
def gather (fragments : Fragments) (chain : List String) (referrer : String)
    (reached : List String) (layer : Layer) (lineage : List String) :
    List String → Except Error (Gathered reached)
  | [] => .ok ⟨layer, lineage, reached, fun _ h => h⟩
  | base :: rest =>
    if hr : base ∈ reached then .error (.cyclic (chain ++ [base]))
    else
      match hd : fragments.lookup base with
      | none => .error (.fragmentNotFound base referrer)
      | some fragment =>
        have _fewer := unreached_cons_lt hd hr
        match gather fragments (chain ++ [base]) fragment.id (base :: reached) {} []
            fragment.bases with
        | .error e => .error e
        | .ok below =>
          let inherited := below.layer.overlay fragment.layer
          match gather fragments chain referrer below.reachedNow (layer.overlay inherited)
              (lineage ++ below.lineage ++ [base]) rest with
          | .error e => .error e
          | .ok all =>
            .ok
              ⟨all.layer, all.lineage, all.reachedNow,
                fun n h => all.keeps n (below.keeps n (List.mem_cons_of_mem _ h))⟩
termination_by bases => (unreached fragments reached, bases.length)
decreasing_by
  · exact Prod.Lex.left _ _ _fewer
  · exact Prod.Lex.right' _
      (unreached_le fun n h => below.keeps n (List.mem_cons_of_mem _ h)) (by simp)

end Inheritance

/-! ## Merged templates -/

/-- A definition with everything that it inherits. -/
structure MergedTemplate where
  id : String
  key : Option TemplateKey
  version : String
  description : Option String
  sections : List Section
  schema : Schema
  /-- The fragments in the order in which they were laid down. -/
  lineage : List String
  source : String
deriving Inhabited

namespace MergedTemplate

/-- The section of a given name. -/
def section? (m : MergedTemplate) (name : String) : Option Section :=
  m.sections.find? fun s => s.name = name

end MergedTemplate

namespace Definition

/-- The name under which a definition starts a merge: that of a fragment, or the identity of a
template. -/
def rootName (d : Definition) : String := d.fragmentName?.getD d.id

/-- A definition with everything that it inherits from fragments. -/
def merge (fragments : Fragments) (d : Definition) : Except Error MergedTemplate :=
  match Inheritance.gather fragments [d.rootName] d.id [d.rootName] {} [] d.bases with
  | .error e => .error e
  | .ok below =>
    let layer := below.layer.overlay d.layer
    .ok
      ⟨d.id, d.key?, d.version, layer.description, layer.sections, layer.schema, below.lineage,
        d.source⟩

end Definition

end Docket
