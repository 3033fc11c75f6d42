import Docket.Proofs.Inheritance.Flattening
import Mathlib.Data.List.Lex
import Mathlib.Data.Set.Card

/-!
# Which definitions can be merged

Replacing every base by the bases of its fragment, again and again, expands the bases of a
definition into a tree of names.  The tree of a cyclic source is infinite, so it is given by what
stands at each address (`expand`), and pre-order is the order of addresses as lists.

A name *offends* if it has been met before or no fragment has it.  Merging walks the tree in
pre-order and fails at the first name that offends.  `gather_regular` and `gather_rejects` say so of
the bases that are still to be gathered, with the names reached by then, and
`Definition.merge_ok_iff_regular` of a whole definition: it can be merged exactly if its tree is
`Expansion.Regular`, that is finite and without offence.

That merging ends shows in the tree as well: up to the first offence all names are different names
of fragments, so there are at most as many as fragments (`Expansion.encard_inspected_le`).
-/

namespace Docket

namespace Inheritance

/-! ## The expansion of bases -/

/-- A name where it stands in an expansion. -/
structure Occurrence where
  name : String
  /-- The identity of the definition that lists the name. -/
  referrer : String
  /-- The names from the top down to that definition. -/
  chain : List String

/-- A tree of names.  An address says for every level, from the top down, how many siblings stand
before; so a name comes before those below it and those behind it. -/
abbrev Expansion := List Nat → Option Occurrence

/-- The tree that arises when every name is replaced by the bases of its fragment. -/
def expand (fragments : Fragments) (chain : List String) (referrer : String)
    (bases : List String) : Expansion
  | [] => none
  | [i] => bases[i]?.map fun name => ⟨name, referrer, chain⟩
  | i :: j :: below =>
    bases[i]?.bind fun name =>
      (fragments.lookup name).bind fun fragment =>
        expand fragments (chain ++ [name]) fragment.id fragment.bases (j :: below)

namespace Expansion

/-- A name is met before an address if it was reached from the start or stands at an address before
that one. -/
def Met (reached : List String) (tree : Expansion) (address : List Nat) (name : String) : Prop :=
  name ∈ reached ∨ ∃ earlier < address, ∃ o, tree earlier = some o ∧ o.name = name

/-- The name at an address has been met before or is not that of a fragment. -/
def Offends (fragments : Fragments) (reached : List String) (tree : Expansion)
    (address : List Nat) (o : Occurrence) : Prop :=
  tree address = some o ∧ (Met reached tree address o.name ∨ fragments.lookup o.name = none)

/-- The first name in pre-order that offends. -/
structure FirstOffence (fragments : Fragments) (reached : List String) (tree : Expansion)
    (address : List Nat) (o : Occurrence) : Prop where
  offends : Offends fragments reached tree address o
  first : ∀ earlier < address, ∀ o', ¬ Offends fragments reached tree earlier o'

/-- A name that has been met before is a cycle, one that has not is missing. -/
def Fault (reached : List String) (tree : Expansion) (address : List Nat) (o : Occurrence)
    (e : Error) : Prop :=
  Met reached tree address o.name ∧ e = .cyclic (o.chain ++ [o.name]) ∨
    ¬ Met reached tree address o.name ∧ e = .fragmentNotFound o.name o.referrer

/-- The error of the first name that offends. -/
def Rejects (fragments : Fragments) (reached : List String) (tree : Expansion) (e : Error) : Prop :=
  ∃ address o, FirstOffence fragments reached tree address o ∧ Fault reached tree address o e

/-- A tree that is finite and holds only names of fragments, none of them twice and none that was
reached from the start. -/
structure Regular (fragments : Fragments) (reached : List String) (tree : Expansion) : Prop where
  finite : {address | (tree address).isSome}.Finite
  known : ∀ address o, tree address = some o → (fragments.lookup o.name).isSome
  once : ∀ p q o o', tree p = some o → tree q = some o' → o.name = o'.name → p = q
  fresh : ∀ address o, tree address = some o → o.name ∉ reached

/-- The addresses that a walk in pre-order looks at if it stops at the first offence. -/
def inspected (fragments : Fragments) (reached : List String) (tree : Expansion) :
    Set (List Nat) :=
  {address | (tree address).isSome ∧
    ∀ earlier < address, ∀ o, ¬ Offends fragments reached tree earlier o}

/-! ## Offences -/

variable {fragments : Fragments} {reached : List String} {tree : Expansion}

lemma regular_iff : Regular fragments reached tree ↔
    {address | (tree address).isSome}.Finite ∧
      ∀ address o, ¬ Offends fragments reached tree address o := by
  refine ⟨fun h => ⟨h.finite, ?_⟩, fun ⟨hfinite, h⟩ => ?_⟩
  · rintro address o ⟨ho, (hreached | ⟨earlier, hlt, o', ho', hname⟩) | hmissing⟩
    · exact h.fresh address o ho hreached
    · exact hlt.ne (h.once earlier address o' o ho' ho hname)
    · simpa [hmissing] using h.known address o ho
  · have hmet : ∀ p o, tree p = some o → ¬ Met reached tree p o.name := fun p o ho hmet =>
      h p o ⟨ho, .inl hmet⟩
    refine
      { finite := hfinite
        known := fun p o ho => Option.isSome_iff_ne_none.mpr fun hnone => h p o ⟨ho, .inr hnone⟩
        once := fun p q o o' ho ho' hname => ?_
        fresh := fun p o ho hreached => hmet p o ho (.inl hreached) }
    rcases lt_trichotomy p q with hlt | heq | hlt
    · exact absurd (.inr ⟨p, hlt, o, ho, hname⟩) (hmet q o' ho')
    · exact heq
    · exact absurd (.inr ⟨q, hlt, o', ho', hname.symm⟩) (hmet p o ho)

lemma Regular.not_offends (h : Regular fragments reached tree) (address : List Nat)
    (o : Occurrence) : ¬ Offends fragments reached tree address o :=
  (regular_iff.mp h).2 address o

/-- Of two offences neither of which has one before it, each is the other. -/
lemma FirstOffence.unique {p q : List Nat} {o o' : Occurrence}
    (h : FirstOffence fragments reached tree p o) (h' : FirstOffence fragments reached tree q o') :
    p = q ∧ o = o' := by
  have hpq : p = q := by
    rcases lt_trichotomy p q with hlt | heq | hlt
    · exact absurd h.offends (h'.first p hlt o)
    · exact heq
    · exact absurd h'.offends (h.first q hlt o')
  subst hpq
  exact ⟨rfl, Option.some.inj (h.offends.1.symm.trans h'.offends.1)⟩

lemma Rejects.unique {e e' : Error} (h : Rejects fragments reached tree e)
    (h' : Rejects fragments reached tree e') : e = e' := by
  obtain ⟨p, o, hfirst, hfault⟩ := h
  obtain ⟨q, o', hfirst', hfault'⟩ := h'
  obtain ⟨rfl, rfl⟩ := hfirst.unique hfirst'
  rcases hfault with ⟨hmet, rfl⟩ | ⟨hmet, rfl⟩ <;> rcases hfault' with ⟨hmet', rfl⟩ | ⟨hmet', rfl⟩
  · rfl
  · exact absurd hmet hmet'
  · exact absurd hmet' hmet
  · rfl

lemma Regular.not_rejects (h : Regular fragments reached tree) (e : Error) :
    ¬ Rejects fragments reached tree e := by
  rintro ⟨address, o, hfirst, -⟩
  exact h.not_offends address o hfirst.offends

/-- Names that do not offend are different names of fragments, so there are no more of them than
fragments. -/
lemma encard_unoffending_le :
    {p | ∃ o, tree p = some o ∧ ¬ Offends fragments reached tree p o}.encard ≤
      fragments.length := by
  classical
  let nameAt : List Nat → Option String := fun p => (tree p).map (·.name)
  let names : Finset (Option String) := (fragments.map fun f => some f.1).toFinset
  have hnames : (names : Set (Option String)).encard ≤ fragments.length := by
    rw [Set.encard_coe_eq_coe_finsetCard]
    exact_mod_cast (List.toFinset_card_le _).trans (by simp)
  refine (Set.encard_le_encard_of_injOn (f := nameAt) ?_ ?_).trans hnames
  · rintro p ⟨o, ho, hgood⟩
    obtain ⟨fragment, hd⟩ :=
      Option.ne_none_iff_exists'.mp fun hnone => hgood ⟨ho, .inr hnone⟩
    obtain ⟨before, after, rfl, -⟩ := List.lookup_eq_some_iff.mp hd
    simp [nameAt, names, ho]
  · -- of two equal names, the later one has been met
    have hlater : ∀ p q o o', tree p = some o → tree q = some o' → o.name = o'.name → p < q →
        Offends fragments reached tree q o' := fun p q o o' ho ho' hname hlt =>
      ⟨ho', .inl (.inr ⟨p, hlt, o, ho, hname⟩)⟩
    rintro p ⟨o, ho, hgood⟩ q ⟨o', ho', hgood'⟩ heq
    have hname : o.name = o'.name := by simpa [nameAt, ho, ho'] using heq
    rcases lt_trichotomy p q with hlt | rfl | hlt
    · exact absurd (hlater p q o o' ho ho' hname hlt) hgood'
    · rfl
    · exact absurd (hlater q p o' o ho' ho hname.symm hlt) hgood

/-- A walk that stops at the first offence looks at no more names than there are fragments, and at
one that offends. -/
lemma encard_inspected_le :
    (inspected fragments reached tree).encard ≤ fragments.length + 1 := by
  have hsubset : inspected fragments reached tree ⊆
      {p | ∃ o, tree p = some o ∧ ¬ Offends fragments reached tree p o} ∪
        {p | ∃ o, FirstOffence fragments reached tree p o} := by
    rintro p ⟨hp, hfirst⟩
    obtain ⟨o, ho⟩ := Option.isSome_iff_exists.mp hp
    by_cases hbad : Offends fragments reached tree p o
    · exact .inr ⟨o, hbad, hfirst⟩
    · exact .inl ⟨o, ho, hbad⟩
  have hone : {p | ∃ o, FirstOffence fragments reached tree p o}.encard ≤ 1 :=
    Set.encard_le_one_iff.mpr fun p q ⟨_, hp⟩ ⟨_, hq⟩ => (hp.unique hq).1
  calc (inspected fragments reached tree).encard
      ≤ _ := Set.encard_le_encard hsubset
    _ ≤ _ := Set.encard_union_le _ _
    _ ≤ fragments.length + 1 := add_le_add encard_unoffending_le hone

/-! ## One base before others -/

/-- A tree with a name in front: those below it, then those of the other tree. -/
def graft (o : Occurrence) (below after : Expansion) : Expansion
  | [] => none
  | [0] => some o
  | 0 :: j :: address => below (j :: address)
  | (i + 1) :: address => after (i :: address)

section Graft

variable {o : Occurrence} {below after : Expansion} {now : List String}

lemma graft_eq_some {p : List Nat} {o' : Occurrence} :
    graft o below after p = some o' ↔
      p = [0] ∧ o = o' ∨
        (∃ j q, p = 0 :: j :: q ∧ below (j :: q) = some o') ∨
          ∃ i q, p = (i + 1) :: q ∧ after (i :: q) = some o' := by
  match p with
  | [] => simp [graft]
  | [0] => simp [graft]
  | 0 :: j :: q => simp [graft]
  | (i + 1) :: q => simp [graft]

/-- The names of a tree are the first one, those below it and those behind. -/
lemma exists_graft_name {name : String} (hroot : below [] = none) (hafter : after [] = none) :
    (∃ p x, graft o below after p = some x ∧ x.name = name) ↔
      name = o.name ∨ (∃ p x, below p = some x ∧ x.name = name) ∨
        ∃ p x, after p = some x ∧ x.name = name := by
  constructor
  · rintro ⟨p, x, hx, rfl⟩
    rcases graft_eq_some.mp hx with ⟨-, rfl⟩ | ⟨j, q, -, hq⟩ | ⟨i, q, -, hq⟩
    · exact .inl rfl
    · exact .inr (.inl ⟨_, x, hq, rfl⟩)
    · exact .inr (.inr ⟨_, x, hq, rfl⟩)
  · rintro (rfl | ⟨p, x, hx, rfl⟩ | ⟨p, x, hx, rfl⟩)
    · exact ⟨[0], o, rfl, rfl⟩
    · match p, hx with
      | [], hx => simp [hroot] at hx
      | j :: q, hx => exact ⟨0 :: j :: q, x, hx, rfl⟩
    · match p, hx with
      | [], hx => simp [hafter] at hx
      | i :: q, hx => exact ⟨(i + 1) :: q, x, hx, rfl⟩

/-- What has been met before an address below the first name. -/
lemma met_graft_below {j : Nat} {q : List Nat} {name : String} (hroot : below [] = none) :
    Met reached (graft o below after) (0 :: j :: q) name ↔
      Met (o.name :: reached) below (j :: q) name := by
  constructor
  · rintro (h | ⟨p, hlt, o', ho', rfl⟩)
    · exact .inl (List.mem_cons_of_mem _ h)
    · rcases graft_eq_some.mp ho' with ⟨rfl, rfl⟩ | ⟨j', q', rfl, hbelow⟩ | ⟨i, q', rfl, -⟩
      · exact .inl (List.mem_cons_self ..)
      · exact .inr ⟨j' :: q', List.cons_lt_cons_self.mp hlt, o', hbelow, rfl⟩
      · simp [List.cons_lt_cons_iff] at hlt
  · rintro (h | ⟨p, hlt, o', ho', rfl⟩)
    · rcases List.mem_cons.mp h with rfl | h
      · exact .inr ⟨[0], by simp, o, rfl, rfl⟩
      · exact .inl h
    · match p, hlt, ho' with
      | [], _, ho' => simp [hroot] at ho'
      | j' :: q', hlt, ho' =>
        exact .inr ⟨0 :: j' :: q', List.cons_lt_cons_self.mpr hlt, o', ho', rfl⟩

/-- What has been met before an address behind the first name and all those below. -/
lemma met_graft_after {i : Nat} {q : List Nat} {name : String} (hroot : below [] = none)
    (hafter : after [] = none)
    (hnow : ∀ n, n ∈ now ↔ n ∈ o.name :: reached ∨ ∃ p o', below p = some o' ∧ o'.name = n) :
    Met reached (graft o below after) ((i + 1) :: q) name ↔ Met now after (i :: q) name := by
  constructor
  · rintro (h | ⟨p, hlt, o', ho', rfl⟩)
    · exact .inl ((hnow _).mpr (.inl (List.mem_cons_of_mem _ h)))
    · rcases graft_eq_some.mp ho' with ⟨rfl, rfl⟩ | ⟨j', q', rfl, hbelow⟩ | ⟨i', q', rfl, hbehind⟩
      · exact .inl ((hnow _).mpr (.inl (List.mem_cons_self ..)))
      · exact .inl ((hnow _).mpr (.inr ⟨_, o', hbelow, rfl⟩))
      · exact .inr ⟨i' :: q', by simpa [List.cons_lt_cons_iff] using hlt, o', hbehind, rfl⟩
  · rintro (h | ⟨p, hlt, o', ho', rfl⟩)
    · rcases (hnow _).mp h with h | ⟨p, o', ho', rfl⟩
      · rcases List.mem_cons.mp h with rfl | h
        · exact .inr ⟨[0], by simp [List.cons_lt_cons_iff], o, rfl, rfl⟩
        · exact .inl h
      · match p, ho' with
        | [], ho' => simp [hroot] at ho'
        | j' :: q', ho' =>
          exact .inr ⟨0 :: j' :: q', by simp [List.cons_lt_cons_iff], o', ho', rfl⟩
    · match p, hlt, ho' with
      | [], _, ho' => simp [hafter] at ho'
      | i' :: q', hlt, ho' =>
        exact .inr ⟨(i' + 1) :: q', by simpa [List.cons_lt_cons_iff] using hlt, o', ho', rfl⟩

lemma not_lt_head {p : List Nat} {o' : Occurrence} (ho' : graft o below after p = some o') :
    ¬ p < [0] := by
  rcases graft_eq_some.mp ho' with ⟨rfl, -⟩ | ⟨j, q, rfl, -⟩ | ⟨i, q, rfl, -⟩ <;>
    simp [List.cons_lt_cons_iff]

/-- Nothing comes before the first name. -/
lemma met_graft_head {name : String} :
    Met reached (graft o below after) [0] name ↔ name ∈ reached := by
  refine ⟨?_, .inl⟩
  rintro (h | ⟨p, hlt, o', ho', -⟩)
  · exact h
  · exact absurd hlt (not_lt_head ho')

lemma offends_graft_head {x : Occurrence} :
    Offends fragments reached (graft o below after) [0] x ↔
      o = x ∧ (o.name ∈ reached ∨ fragments.lookup o.name = none) := by
  rw [Offends, met_graft_head]
  constructor
  · rintro ⟨hx, hbad⟩
    cases hx
    exact ⟨rfl, hbad⟩
  · rintro ⟨rfl, hbad⟩
    exact ⟨rfl, hbad⟩

lemma not_offends_graft_head {x : Occurrence} (hfresh : o.name ∉ reached)
    (hknown : (fragments.lookup o.name).isSome) :
    ¬ Offends fragments reached (graft o below after) [0] x := by
  rw [offends_graft_head]
  rintro ⟨-, hreached | hmissing⟩
  · exact hfresh hreached
  · simp [hmissing] at hknown

lemma offends_graft_below {j : Nat} {q : List Nat} {x : Occurrence} (hroot : below [] = none) :
    Offends fragments reached (graft o below after) (0 :: j :: q) x ↔
      Offends fragments (o.name :: reached) below (j :: q) x := by
  rw [Offends, met_graft_below hroot]
  rfl

lemma offends_graft_after {i : Nat} {q : List Nat} {x : Occurrence} (hroot : below [] = none)
    (hafter : after [] = none)
    (hnow : ∀ n, n ∈ now ↔ n ∈ o.name :: reached ∨ ∃ p o', below p = some o' ∧ o'.name = n) :
    Offends fragments reached (graft o below after) ((i + 1) :: q) x ↔
      Offends fragments now after (i :: q) x := by
  rw [Offends, met_graft_after hroot hafter hnow]
  rfl

/-- An error of the first name is the error of the tree. -/
lemma Rejects.graft_head {e : Error}
    (h : o.name ∈ reached ∧ e = .cyclic (o.chain ++ [o.name]) ∨
      o.name ∉ reached ∧ fragments.lookup o.name = none ∧
        e = .fragmentNotFound o.name o.referrer) :
    Rejects fragments reached (graft o below after) e := by
  refine ⟨[0], o, ⟨offends_graft_head.mpr ⟨rfl, ?_⟩, ?_⟩, ?_⟩
  · exact h.imp (·.1) (·.2.1)
  · rintro p hlt x ⟨hx, -⟩
    exact not_lt_head hx hlt
  · rw [Fault, met_graft_head]
    exact h.imp id fun h => ⟨h.1, h.2.2⟩

/-- If the first name does not offend, an error below it is the error of the tree. -/
lemma Rejects.graft_below {e : Error} (hroot : below [] = none) (hfresh : o.name ∉ reached)
    (hknown : (fragments.lookup o.name).isSome)
    (h : Rejects fragments (o.name :: reached) below e) :
    Rejects fragments reached (graft o below after) e := by
  obtain ⟨p, x, hfirst, hfault⟩ := h
  match p, hfirst, hfault with
  | [], hfirst, _ =>
    have := hfirst.offends.1
    simp [hroot] at this
  | j :: q, hfirst, hfault =>
    refine ⟨0 :: j :: q, x, ⟨(offends_graft_below hroot).mpr hfirst.offends, ?_⟩, ?_⟩
    · intro p hlt y hbad
      rcases graft_eq_some.mp hbad.1 with ⟨rfl, rfl⟩ | ⟨j', q', rfl, -⟩ | ⟨i, q', rfl, -⟩
      · exact not_offends_graft_head hfresh hknown hbad
      · exact hfirst.first _ (List.cons_lt_cons_self.mp hlt) y ((offends_graft_below hroot).mp hbad)
      · simp [List.cons_lt_cons_iff] at hlt
    · rw [Fault, met_graft_below hroot]
      exact hfault

/-- If neither the first name nor those below it offend, an error behind is the error of the
tree. -/
lemma Rejects.graft_after {e : Error} (hroot : below [] = none) (hafter : after [] = none)
    (hnow : ∀ n, n ∈ now ↔ n ∈ o.name :: reached ∨ ∃ p o', below p = some o' ∧ o'.name = n)
    (hfresh : o.name ∉ reached) (hknown : (fragments.lookup o.name).isSome)
    (hbelow : Regular fragments (o.name :: reached) below) (h : Rejects fragments now after e) :
    Rejects fragments reached (graft o below after) e := by
  obtain ⟨p, x, hfirst, hfault⟩ := h
  match p, hfirst, hfault with
  | [], hfirst, _ =>
    have := hfirst.offends.1
    simp [hafter] at this
  | i :: q, hfirst, hfault =>
    refine ⟨(i + 1) :: q, x, ⟨(offends_graft_after hroot hafter hnow).mpr hfirst.offends, ?_⟩, ?_⟩
    · intro p hlt y hbad
      rcases graft_eq_some.mp hbad.1 with ⟨rfl, rfl⟩ | ⟨j', q', rfl, -⟩ | ⟨i', q', rfl, -⟩
      · exact not_offends_graft_head hfresh hknown hbad
      · exact hbelow.not_offends _ y ((offends_graft_below hroot).mp hbad)
      · exact hfirst.first (i' :: q') (by simpa [List.cons_lt_cons_iff] using hlt) y
          ((offends_graft_after hroot hafter hnow).mp hbad)
    · rw [Fault, met_graft_after hroot hafter hnow]
      exact hfault

/-- A tree is regular if its first name does not offend and the rest is regular. -/
lemma Regular.graft (hroot : below [] = none) (hafter : after [] = none)
    (hnow : ∀ n, n ∈ now ↔ n ∈ o.name :: reached ∨ ∃ p o', below p = some o' ∧ o'.name = n)
    (hfresh : o.name ∉ reached) (hknown : (fragments.lookup o.name).isSome)
    (hbelow : Regular fragments (o.name :: reached) below) (hbehind : Regular fragments now after) :
    Regular fragments reached (graft o below after) := by
  refine regular_iff.mpr ⟨?_, fun p x hbad => ?_⟩
  · have hsubset : {p | (Expansion.graft o below after p).isSome} ⊆
        {[0]} ∪ (List.cons 0 '' {p | (below p).isSome} ∪
          List.modifyHead (· + 1) '' {p | (after p).isSome}) := by
      intro p hp
      obtain ⟨x, hx⟩ := Option.isSome_iff_exists.mp hp
      rcases graft_eq_some.mp hx with ⟨rfl, -⟩ | ⟨j, q, rfl, hq⟩ | ⟨i, q, rfl, hq⟩
      · exact .inl rfl
      · exact .inr (.inl ⟨j :: q, by simp [hq], rfl⟩)
      · exact .inr (.inr ⟨i :: q, by simp [hq], rfl⟩)
    exact ((Set.finite_singleton _).union
      ((hbelow.finite.image _).union (hbehind.finite.image _))).subset hsubset
  · rcases graft_eq_some.mp hbad.1 with ⟨rfl, rfl⟩ | ⟨j, q, rfl, hx⟩ | ⟨i, q, rfl, hx⟩
    · exact not_offends_graft_head hfresh hknown hbad
    · exact hbelow.not_offends _ x ((offends_graft_below hroot).mp hbad)
    · exact hbehind.not_offends _ x ((offends_graft_after hroot hafter hnow).mp hbad)

end Graft

end Expansion

/-! ## Gathering walks the expansion -/

section Gather

variable {fragments : Fragments} {chain : List String} {referrer : String} {reached : List String}
  {layer : Layer} {lineage : List String}

@[simp] lemma expand_root {bases : List String} :
    expand fragments chain referrer bases [] = none := rfl

lemma expand_nil (address : List Nat) : expand fragments chain referrer [] address = none := by
  match address with
  | [] => rfl
  | [_] => rfl
  | _ :: _ :: _ => rfl

/-- The first base comes with its own bases below it, before the other bases. -/
lemma expand_cons {base : String} {rest : List String} :
    expand fragments chain referrer (base :: rest) =
      Expansion.graft ⟨base, referrer, chain⟩
        (fun address => (fragments.lookup base).bind fun fragment =>
          expand fragments (chain ++ [base]) fragment.id fragment.bases address)
        (expand fragments chain referrer rest) := by
  funext address
  match address with
  | [] => rfl
  | [0] => rfl
  | 0 :: _ :: _ => rfl
  | [_ + 1] => rfl
  | (_ + 1) :: _ :: _ => rfl

lemma expand_cons_of_lookup {base : String} {rest : List String} {fragment : Definition}
    (hd : fragments.lookup base = some fragment) :
    expand fragments chain referrer (base :: rest) =
      Expansion.graft ⟨base, referrer, chain⟩
        (expand fragments (chain ++ [base]) fragment.id fragment.bases)
        (expand fragments chain referrer rest) := by
  rw [expand_cons, hd]
  rfl

/-- How gathering a base and those after it can fail. -/
lemma gather_cons_error {base : String} {rest : List String} {e : Error}
    (h : gather fragments chain referrer reached layer lineage (base :: rest) = .error e) :
    base ∈ reached ∧ e = .cyclic (chain ++ [base]) ∨
      base ∉ reached ∧ fragments.lookup base = none ∧ e = .fragmentNotFound base referrer ∨
        base ∉ reached ∧ ∃ fragment, fragments.lookup base = some fragment ∧
          (gather fragments (chain ++ [base]) fragment.id (base :: reached) {} []
              fragment.bases = .error e ∨
            ∃ below : Gathered (base :: reached),
              gather fragments (chain ++ [base]) fragment.id (base :: reached) {} []
                fragment.bases = .ok below ∧
              gather fragments chain referrer below.reachedNow
                (layer.overlay (below.layer.overlay fragment.layer))
                (lineage ++ below.lineage ++ [base]) rest = .error e) := by
  rw [gather_cons] at h
  split at h
  · rename_i hr
    cases h
    exact .inl ⟨hr, rfl⟩
  · rename_i hr
    refine .inr ?_
    split at h
    · rename_i hd
      cases h
      exact .inl ⟨hr, hd, rfl⟩
    · rename_i fragment hd
      refine .inr ⟨hr, fragment, hd, ?_⟩
      split at h
      · rename_i e' hbelow
        cases h
        exact .inl hbelow
      · rename_i below hbelow
        split at h
        · rename_i e' hafter
          cases h
          exact .inr ⟨below, hbelow, hafter⟩
        · cases h

end Gather

variable {fragments : Fragments}

open Expansion

/-- Bases that can be gathered expand to a regular tree, whose names are then reached as well. -/
lemma gather_regular {chain : List String} {referrer : String} {reached : List String}
    {layer : Layer} {lineage bases : List String} {all : Gathered reached}
    (h : gather fragments chain referrer reached layer lineage bases = .ok all) :
    Regular fragments reached (expand fragments chain referrer bases) ∧
      ∀ n, n ∈ all.reachedNow ↔
        n ∈ reached ∨ ∃ p o, expand fragments chain referrer bases p = some o ∧ o.name = n := by
  match bases, h with
  | [], h =>
    rw [gather_nil, Except.ok.injEq] at h
    subst h
    exact ⟨regular_iff.mpr ⟨by simp [expand_nil], by simp [Offends, expand_nil]⟩,
      by simp [expand_nil]⟩
  | base :: rest, h =>
    obtain ⟨hr, fragment, below, after, hd, hbelow, hafter, -, -, hreached⟩ := gather_cons_ok h
    have hfewer := unreached_cons_lt hd hr
    obtain ⟨hregular, hnow⟩ := gather_regular hbelow
    obtain ⟨hregular', hnow'⟩ := gather_regular hafter
    have hknown : (fragments.lookup base).isSome := by simp [hd]
    rw [expand_cons_of_lookup hd]
    refine ⟨hregular.graft expand_root expand_root hnow hr hknown hregular', fun n => ?_⟩
    rw [hreached, hnow', hnow, exists_graft_name expand_root expand_root, List.mem_cons,
      or_comm (a := n = base), or_assoc, or_assoc]
termination_by (unreached fragments reached, bases.length)
decreasing_by
  · exact Prod.Lex.left _ _ hfewer
  · exact Prod.Lex.right' _
      (unreached_le fun n hn => below.keeps n (List.mem_cons_of_mem _ hn)) (by simp)

/-- Bases that cannot be gathered fail with the error of their tree. -/
lemma gather_rejects {chain : List String} {referrer : String} {reached : List String}
    {layer : Layer} {lineage bases : List String} {e : Error}
    (h : gather fragments chain referrer reached layer lineage bases = .error e) :
    Rejects fragments reached (expand fragments chain referrer bases) e := by
  match bases, h with
  | [], h => simp [gather_nil] at h
  | base :: rest, h =>
    rcases gather_cons_error h with ⟨hr, he⟩ | ⟨hr, hd, he⟩ | ⟨hr, fragment, hd, hrest⟩
    · rw [expand_cons]
      exact .graft_head (.inl ⟨hr, he⟩)
    · rw [expand_cons]
      exact .graft_head (.inr ⟨hr, hd, he⟩)
    · have hfewer := unreached_cons_lt hd hr
      have hknown : (fragments.lookup base).isSome := by simp [hd]
      rw [expand_cons_of_lookup hd]
      rcases hrest with hbelow | ⟨below, hbelow, hafter⟩
      · exact (gather_rejects hbelow).graft_below expand_root hr hknown
      · obtain ⟨hregular, hnow⟩ := gather_regular hbelow
        exact (gather_rejects hafter).graft_after expand_root expand_root hnow hr hknown hregular
termination_by (unreached fragments reached, bases.length)
decreasing_by
  · exact Prod.Lex.left _ _ hfewer
  · exact Prod.Lex.right' _
      (unreached_le fun n hn => below.keeps n (List.mem_cons_of_mem _ hn)) (by simp)

end Inheritance

/-! ## Merging a definition -/

/-- The tree of the bases of a definition. -/
def Definition.expansion (fragments : Fragments) (d : Definition) : Inheritance.Expansion :=
  Inheritance.expand fragments [d.rootName] d.id d.bases

open Inheritance.Expansion in
/-- **Merging ends, and rejects exactly the trees that repeat or miss a name.**  A definition can be
merged exactly if its bases expand to a finite tree in which every name is that of a fragment and
none occurs twice or is the name of the definition.  Otherwise the error is that of the first name
in pre-order that offends.  Up to there are no more names than fragments. -/
theorem Definition.merge_ok_iff_regular (fragments : Fragments) (d : Definition) :
    ((∃ m, d.merge fragments = .ok m) ↔
        Regular fragments [d.rootName] (d.expansion fragments)) ∧
      (∀ e, d.merge fragments = .error e ↔
        Rejects fragments [d.rootName] (d.expansion fragments) e) ∧
      (inspected fragments [d.rootName] (d.expansion fragments)).encard ≤ fragments.length + 1 := by
  have hok : ∀ m, d.merge fragments = .ok m →
      Regular fragments [d.rootName] (d.expansion fragments) := by
    intro m h
    rw [Definition.merge] at h
    split at h
    · cases h
    · rename_i below hbelow
      exact (Inheritance.gather_regular hbelow).1
  have herror : ∀ e, d.merge fragments = .error e →
      Rejects fragments [d.rootName] (d.expansion fragments) e := by
    intro e h
    rw [Definition.merge] at h
    split at h
    · rename_i e' hfail
      cases h
      exact Inheritance.gather_rejects hfail
    · cases h
  refine ⟨⟨fun h => h.elim hok, fun hregular => ?_⟩, fun e => ⟨herror e, fun hrejects => ?_⟩,
    encard_inspected_le⟩
  · cases hmerge : d.merge fragments with
    | ok m => exact ⟨m, rfl⟩
    | error e => exact absurd (herror e hmerge) (hregular.not_rejects e)
  · cases hmerge : d.merge fragments with
    | ok m => exact absurd hrejects ((hok m hmerge).not_rejects e)
    | error e' => rw [(herror e' hmerge).unique hrejects]

end Docket
