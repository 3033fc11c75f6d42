import Docket.Proofs.Inheritance.Flattening

/-!
# What a merge can see

A merge sees the fragments whose names are reached through bases, and no others.  `Reaches` says
which names these are; a name counts as reached whether or not there is a fragment of that name,
because a merge fails for a missing one.  So two sets of fragments that agree on the reached names
give the same merge, with the same failure if it fails (`Definition.merge_congr`).
-/

namespace Docket

namespace Inheritance

/-- The names that are reached from bases, through the bases of the fragments that are there. -/
inductive Reaches (fragments : Fragments) : (bases : List String) → (name : String) → Prop where
  | named {bases : List String} {name : String} : name ∈ bases → Reaches fragments bases name
  | through {bases : List String} {base name : String} {fragment : Definition} :
    base ∈ bases → fragments.lookup base = some fragment → Reaches fragments fragment.bases name →
      Reaches fragments bases name

variable {fragments fragments' : Fragments}

lemma Reaches.mono {bases more : List String} {name : String} (h : Reaches fragments bases name)
    (hsub : bases ⊆ more) : Reaches fragments more name := by
  cases h with
  | named hmem => exact .named (hsub hmem)
  | through hmem hfragment hbelow => exact .through (hsub hmem) hfragment hbelow

/-- Gathering bases gives the same with fragments that agree on the reached names. -/
lemma gather_congr {chain : List String} {referrer : String} {reached : List String} {layer : Layer}
    {lineage bases : List String}
    (h : ∀ name, Reaches fragments bases name → fragments.lookup name = fragments'.lookup name) :
    gather fragments chain referrer reached layer lineage bases =
      gather fragments' chain referrer reached layer lineage bases := by
  match bases, h with
  | [], _ => rw [gather_nil, gather_nil]
  | base :: rest, h =>
      rw [gather_cons, gather_cons, ← h base (.named List.mem_cons_self)]
      by_cases hr : base ∈ reached
      · rw [if_pos hr, if_pos hr]
      · rw [if_neg hr, if_neg hr]
        cases hd : fragments.lookup base with
        | none => rfl
        | some fragment =>
            have hfewer := unreached_cons_lt hd hr
            have hbelow (name : String) (hname : Reaches fragments fragment.bases name) :
                fragments.lookup name = fragments'.lookup name :=
              h name (.through List.mem_cons_self hd hname)
            have hrest (name : String) (hname : Reaches fragments rest name) :
                fragments.lookup name = fragments'.lookup name :=
              h name (hname.mono (List.subset_cons_self _ _))
            dsimp only
            rw [← gather_congr hbelow]
            cases hgather : gather fragments (chain ++ [base]) fragment.id (base :: reached) {} []
                fragment.bases with
            | error e => rfl
            | ok below =>
                have hkeeps : ∀ n ∈ reached, n ∈ below.reachedNow := fun n hn =>
                  below.keeps n (List.mem_cons_of_mem _ hn)
                dsimp only
                rw [← gather_congr hrest]
termination_by (unreached fragments reached, bases.length)
decreasing_by
  · exact Prod.Lex.left _ _ hfewer
  · exact Prod.Lex.right' _ (unreached_le hkeeps) (by simp)

end Inheritance

/-- **A merge depends on the reached fragments only.** -/
lemma Definition.merge_congr {fragments fragments' : Fragments} {d : Definition}
    (h : ∀ name, Inheritance.Reaches fragments d.bases name →
      fragments.lookup name = fragments'.lookup name) :
    d.merge fragments = d.merge fragments' := by
  rw [Definition.merge, Definition.merge, Inheritance.gather_congr h]

end Docket
