import Docket.Proofs.Inheritance.Keyed
import Docket.Proofs.Store.Building
import Mathlib.Data.List.Induction
import Mathlib.Data.Prod.Lex
import Mathlib.Data.String.Basic

/-!
# Stores do not depend on the order of definitions

Definitions come in the order of their files, and templates among fragments.  A store sorts what it
is given (`Store.sorted_of_ofDefinitions`), and it lists each definition once, so two stores that
were built from the same definitions are one store.

## Repeated identities

Definitions fit into one store if no identity comes twice.  `Repeats ds first second` says which
definition is refused otherwise: `second` is the first one of `ds` whose identity came before it,
and `first` is where that identity came first.  Adding definitions one after another has to meet
exactly this pair (`Store.ofDefinitions_of_repeats`).
-/

namespace Docket

/-! ## The order of keys -/

namespace TemplateKey

/-- The three parts of a key, which are compared one after another. -/
def rank (k : TemplateKey) : String ×ₗ String ×ₗ String :=
  toLex (k.platform, toLex (k.documentType, k.techStack))

lemma rank_injective : Function.Injective rank := by
  intro a b h
  simp only [rank, EmbeddingLike.apply_eq_iff_eq, Prod.mk.injEq] at h
  cases a
  cases b
  simp_all

lemma before_iff (a b : TemplateKey) : a.before b ↔ a.rank < b.rank := by
  simp only [before, rank, Prod.Lex.toLex_lt_toLex]
  by_cases hplatform : a.platform = b.platform
  · by_cases htype : a.documentType = b.documentType
    · simp [hplatform, htype]
    · simp [hplatform, htype]
  · simp [hplatform]

end TemplateKey

/-- An entry with a new key is put where its key belongs. -/
lemma OrderedBy.insertOrdered {κ α ρ : Type} [DecidableEq κ] [LinearOrder ρ] {rank : κ → ρ}
    {before : κ → κ → Bool} {key : κ} {l : List (κ × α)} (h : OrderedBy rank l)
    (hbefore : ∀ a b, before a b ↔ rank a < rank b) (hrank : Function.Injective rank)
    (hnew : l.lookup key = none) (a : α) : OrderedBy rank (insertOrdered before key a l) := by
  induction l with
  | nil => exact List.pairwise_singleton _ _
  | cons e rest ih =>
      obtain ⟨other, b⟩ := e
      obtain ⟨hfirst, hrest⟩ := List.pairwise_cons.mp h
      rw [lookup_cons_eq_ite] at hnew
      have hne : key ≠ other := fun heq => by simp [heq] at hnew
      rw [if_neg hne] at hnew
      rw [Docket.insertOrdered]
      by_cases hlt : before key other
      · rw [if_pos hlt]
        have hkey : rank key < rank other := (hbefore key other).mp hlt
        apply List.pairwise_cons.mpr
        refine ⟨?_, h⟩
        intro x hx
        rcases List.mem_cons.mp hx with rfl | hx
        · exact hkey
        · exact hkey.trans (hfirst x hx)
      · rw [if_neg hlt]
        have hle : rank other ≤ rank key := not_lt.mp (mt (hbefore key other).mpr hlt)
        have hother : rank other < rank key := lt_of_le_of_ne hle (hrank.ne hne.symm)
        apply List.pairwise_cons.mpr
        refine ⟨?_, ih hrest hnew⟩
        intro x hx
        rcases mem_insertOrdered.mp hx with rfl | hx
        · exact hother
        · exact hfirst x hx

namespace Store

variable {s t : Store} {d : Definition} {ds : List Definition}

/-! ## Sorted stores -/

/-- Templates and fragments stand in the order of their keys. -/
structure Sorted (s : Store) : Prop where
  templates : OrderedBy TemplateKey.rank s.templates
  fragments : OrderedBy id s.fragments

lemma Sorted.add (h : s.Sorted) (hadd : s.add d = .ok t) : t.Sorted := by
  obtain ⟨hnew, ht⟩ := add_ok hadd
  cases hid : d.identity with
  | template key =>
      rw [hid] at hnew ht
      subst ht
      exact ⟨h.templates.insertOrdered TemplateKey.before_iff TemplateKey.rank_injective hnew d,
        h.fragments⟩
  | fragment name =>
      rw [hid] at hnew ht
      subst ht
      exact ⟨h.templates,
        h.fragments.insertOrdered (fun _ _ => decide_eq_true_iff) Function.injective_id hnew d⟩

lemma ofDefinitions_concat (ds : List Definition) (d : Definition) :
    ofDefinitions (ds ++ [d]) = (ofDefinitions ds).bind fun s => s.add d := by
  rw [ofDefinitions, List.foldlM_append]
  simp only [List.foldlM_cons, List.foldlM_nil, bind_pure]
  rfl

/-- A store that was built from definitions is sorted. -/
lemma sorted_of_ofDefinitions (h : ofDefinitions ds = .ok s) : s.Sorted := by
  induction ds using List.reverseRecOn generalizing s with
  | nil =>
      cases h
      exact ⟨.nil, .nil⟩
  | append_singleton ds d ih =>
      rw [ofDefinitions_concat] at h
      cases hds : ofDefinitions ds with
      | error _ => simp [hds, Except.bind] at h
      | ok s' =>
          rw [hds] at h
          exact (ih hds).add h

/-! ## What a store lists -/

/-- Everything that a store lists, under its identity. -/
def filed (s : Store) : List (Identity × Definition) :=
  (s.templates.map fun x => (.template x.1, x.2)) ++ s.fragments.map fun x => (.fragment x.1, x.2)

lemma mem_filed {i : Identity} : (i, d) ∈ s.filed ↔ s.Holds d i := by
  cases i <;> simp [filed, Holds]

lemma Sorted.nodup_filed (h : s.Sorted) : s.filed.Nodup := by
  have htemplates := h.templates.nodup_keys.of_map
  have hfragments := h.fragments.nodup_keys.of_map
  apply List.Nodup.append
  · apply htemplates.map
    intro x y heq
    simpa [Prod.ext_iff] using heq
  · apply hfragments.map
    intro x y heq
    simpa [Prod.ext_iff] using heq
  · intro x hx hx'
    simp only [List.mem_map] at hx hx'
    obtain ⟨_, _, rfl⟩ := hx
    obtain ⟨_, _, heq⟩ := hx'
    simp at heq

lemma Sorted.holder?_eq_some_iff (h : s.Sorted) {i : Identity} :
    s.holder? i = some d ↔ s.Holds d i := by
  cases i with
  | template key => exact h.templates.lookup_eq_some_iff
  | fragment name => exact h.fragments.lookup_eq_some_iff

/-- The broken templates are those that cannot be merged, each with the reason. -/
lemma mem_broken_iff {key : TemplateKey} {e : Error} :
    (key, e) ∈ s.broken ↔ ∃ d, s.Holds d (.template key) ∧ s.merge d = .error e := by
  have hreason (d : Definition) : Error.of? (s.merge d) = some e ↔ s.merge d = .error e := by
    cases s.merge d <;> simp [Error.of?]
  simp only [broken, List.mem_filterMap, Option.map_eq_some_iff]
  constructor
  · rintro ⟨⟨key', d⟩, hmem, reason, herror, heq⟩
    obtain ⟨rfl, rfl⟩ := Prod.mk.inj heq
    exact ⟨d, hmem, (hreason d).mp herror⟩
  · rintro ⟨d, hmem, herror⟩
    exact ⟨(key, d), hmem, e, (hreason d).mpr herror, rfl⟩

/-- Two sorted stores that list the same definitions are one store. -/
lemma Sorted.eq_of_holds_iff (h : s.Sorted) (ht : t.Sorted)
    (hholds : ∀ d i, s.Holds d i ↔ t.Holds d i) : s = t := by
  have htemplates : s.templates = t.templates :=
    h.templates.eq_of_mem_iff ht.templates fun x => hholds x.2 (.template x.1)
  have hfragments : s.fragments = t.fragments :=
    h.fragments.eq_of_mem_iff ht.fragments fun x => hholds x.2 (.fragment x.1)
  cases s
  cases t
  simp_all

end Store

/-! ## Repeated identities -/

/-- No identity comes twice. -/
def DistinctIdentities (ds : List Definition) : Prop :=
  ds.Pairwise fun d e => d.identity ≠ e.identity

/-- `second` is the first definition of the list whose identity came before it, and that came first
with `first`. -/
def Repeats (ds : List Definition) (first second : Definition) : Prop :=
  ∃ earlier later, ds = earlier ++ second :: later ∧ DistinctIdentities earlier ∧
    earlier.find? (fun d => d.identity = second.identity) = some first

lemma distinctIdentities_concat {ds : List Definition} {d : Definition} :
    DistinctIdentities (ds ++ [d]) ↔
      DistinctIdentities ds ∧ ds.find? (fun e => e.identity = d.identity) = none := by
  simp [DistinctIdentities, List.pairwise_append]

/-- A list repeats an identity unless it has each once. -/
lemma distinctIdentities_or_repeats (ds : List Definition) :
    DistinctIdentities ds ∨ ∃ first second, Repeats ds first second := by
  induction ds using List.reverseRecOn with
  | nil => exact .inl .nil
  | append_singleton ds d ih =>
      rcases ih with hdistinct | ⟨first, second, earlier, later, rfl, hearlier, hfirst⟩
      · cases hfound : ds.find? (fun e => e.identity = d.identity) with
        | none => exact .inl (distinctIdentities_concat.mpr ⟨hdistinct, hfound⟩)
        | some first => exact .inr ⟨first, d, ds, [], rfl, hdistinct, hfound⟩
      · exact .inr ⟨first, second, earlier, later ++ [d], by simp, hearlier, hfirst⟩

/-- Among distinct identities a definition is found under its own. -/
lemma DistinctIdentities.find?_eq_some_iff {ds : List Definition} (h : DistinctIdentities ds)
    {i : Identity} {d : Definition} :
    ds.find? (fun e => e.identity = i) = some d ↔ d ∈ ds ∧ i = d.identity := by
  constructor
  · intro hfound
    have hid : d.identity = i := by simpa using List.find?_some hfound
    exact ⟨List.mem_of_find?_eq_some hfound, hid.symm⟩
  · rintro ⟨hmem, rfl⟩
    have hnodup : (ds.map Definition.identity).Nodup := List.pairwise_map.mpr h
    exact Keyed.find?_key_of_mem hnodup hmem

namespace Store

/-- What a store finds under an identity is what the definitions have under it. -/
lemma holder?_of_ofDefinitions (h : ofDefinitions ds = .ok s) (hdistinct : DistinctIdentities ds)
    (i : Identity) : s.holder? i = ds.find? fun d => d.identity = i := by
  apply Option.ext
  intro d
  rw [(sorted_of_ofDefinitions h).holder?_eq_some_iff, holds_of_ofDefinitions h,
    hdistinct.find?_eq_some_iff]

/-- Distinct identities fit into one store. -/
lemma ofDefinitions_of_distinct (h : DistinctIdentities ds) : ∃ s, ofDefinitions ds = .ok s := by
  induction ds using List.reverseRecOn with
  | nil => exact ⟨{}, rfl⟩
  | append_singleton ds d ih =>
      obtain ⟨hdistinct, hnew⟩ := distinctIdentities_concat.mp h
      obtain ⟨s, hs⟩ := ih hdistinct
      rw [ofDefinitions_concat, hs]
      exact exists_add (by rw [holder?_of_ofDefinitions hs hdistinct, hnew])

/-- A repeated identity is refused where it comes the second time. -/
lemma ofDefinitions_of_repeats {first second : Definition} (h : Repeats ds first second) :
    ofDefinitions ds =
      .error (.duplicate second.identity.text first.source second.source) := by
  obtain ⟨earlier, later, rfl, hdistinct, hfirst⟩ := h
  obtain ⟨s, hs⟩ := ofDefinitions_of_distinct hdistinct
  have hholder : s.holder? second.identity = some first := by
    rw [holder?_of_ofDefinitions hs hdistinct, hfirst]
  rw [ofDefinitions] at hs ⊢
  simp only [List.foldlM_append, hs, List.foldlM_cons, bind, Except.bind, add_of_holder hholder]

/-- Definitions that are in one store have distinct identities. -/
lemma distinct_of_ofDefinitions (h : ofDefinitions ds = .ok s) : DistinctIdentities ds := by
  rcases distinctIdentities_or_repeats ds with hdistinct | ⟨first, second, hrepeats⟩
  · exact hdistinct
  · rw [ofDefinitions_of_repeats hrepeats] at h
    cases h

/-- Definitions in another order build the same store. -/
lemma ofDefinitions_of_perm {ds' : List Definition} (h : ofDefinitions ds = .ok s)
    (hperm : ds.Perm ds') : ofDefinitions ds' = .ok s := by
  have hdistinct : DistinctIdentities ds' :=
    hperm.pairwise (distinct_of_ofDefinitions h) fun hne => hne.symm
  obtain ⟨s', hs'⟩ := ofDefinitions_of_distinct hdistinct
  have heq : s' = s := by
    apply (sorted_of_ofDefinitions hs').eq_of_holds_iff (sorted_of_ofDefinitions h)
    intro d i
    rw [holds_of_ofDefinitions hs', holds_of_ofDefinitions h, hperm.mem_iff]
  rw [hs', heq]

/-- A store lists each of its definitions once. -/
lemma filed_perm (h : ofDefinitions ds = .ok s) :
    s.filed.Perm (ds.map fun d => (d.identity, d)) := by
  have hnodup : (ds.map fun d => (d.identity, d)).Nodup := by
    apply List.pairwise_map.mpr
    apply List.Pairwise.imp _ (distinct_of_ofDefinitions h)
    intro d e hne heq
    exact hne (congrArg Prod.fst heq)
  apply (List.perm_ext_iff_of_nodup (sorted_of_ofDefinitions h).nodup_filed hnodup).mpr
  intro x
  obtain ⟨i, d⟩ := x
  rw [mem_filed, holds_of_ofDefinitions h, List.mem_map]
  constructor
  · rintro ⟨hmem, rfl⟩
    exact ⟨d, hmem, rfl⟩
  · rintro ⟨e, hmem, heq⟩
    obtain ⟨rfl, rfl⟩ := Prod.mk.inj heq
    exact ⟨hmem, rfl⟩

/-! ## The order does not matter -/

/-- **A store does not depend on the order of its definitions.**  Definitions build a store exactly
if no identity comes twice.  The same store then comes of every permutation of them, so with the
same templates, fragments and broken templates; it lists each of them exactly once, under its
identity, and finds it there; and broken are those templates that cannot be merged with the
fragments of the store, for the reason that merging gives.  Otherwise the first definition whose
identity came before is refused, with its own source and that of the first one of its identity. -/
theorem ofDefinitions_order (ds : List Definition) :
    ((∃ s, ofDefinitions ds = .ok s) ↔ DistinctIdentities ds) ∧
      (∀ s, ofDefinitions ds = .ok s →
        (∀ ds', ds.Perm ds' → ofDefinitions ds' = .ok s) ∧
          s.filed.Perm (ds.map fun d => (d.identity, d)) ∧
          (∀ i d, s.holder? i = some d ↔ d ∈ ds ∧ i = d.identity) ∧
          ∀ key e, (key, e) ∈ s.broken ↔
            ∃ d ∈ ds, d.identity = .template key ∧ s.merge d = .error e) ∧
      ∀ e, ofDefinitions ds = .error e ↔
        ∃ first second, Repeats ds first second ∧
          e = .duplicate second.identity.text first.source second.source := by
  refine ⟨⟨?_, ofDefinitions_of_distinct⟩, ?_, ?_⟩
  · rintro ⟨s, hs⟩
    exact distinct_of_ofDefinitions hs
  · intro s hs
    have hholds := holds_of_ofDefinitions hs
    refine ⟨fun ds' => ofDefinitions_of_perm hs, filed_perm hs, ?_, ?_⟩
    · intro i d
      rw [(sorted_of_ofDefinitions hs).holder?_eq_some_iff, hholds]
    · intro key e
      rw [mem_broken_iff]
      constructor
      · rintro ⟨d, hd, herror⟩
        obtain ⟨hmem, hid⟩ := (hholds d _).mp hd
        exact ⟨d, hmem, hid.symm, herror⟩
      · rintro ⟨d, hmem, hid, herror⟩
        exact ⟨d, (hholds d _).mpr ⟨hmem, hid.symm⟩, herror⟩
  · intro e
    constructor
    · intro he
      rcases distinctIdentities_or_repeats ds with hdistinct | ⟨first, second, hrepeats⟩
      · obtain ⟨s, hs⟩ := ofDefinitions_of_distinct hdistinct
        rw [hs] at he
        cases he
      · rw [ofDefinitions_of_repeats hrepeats] at he
        exact ⟨first, second, hrepeats, (Except.error.inj he).symm⟩
    · rintro ⟨first, second, hrepeats, rfl⟩
      exact ofDefinitions_of_repeats hrepeats

/-! ### A renamed file and a copied one -/

/-- A fragment that other definitions are based on. -/
def housePart : Definition := ⟨.fragment "house", "1", none, [], [], [], "house.yaml"⟩

/-- A template that can be merged. -/
def bugTemplate : Definition :=
  ⟨.template ⟨"jira", "bug", "rust"⟩, "1", none, [], [], ["house"], "bug.yaml"⟩

/-- A template that is based on a fragment which is not there. -/
def storyTemplate : Definition :=
  ⟨.template ⟨"jira", "story", "rust"⟩, "2", none, [], [], ["legal"], "story.yaml"⟩

/-- The three of them in one store. -/
def houseStore : Store where
  templates := [(⟨"jira", "bug", "rust"⟩, bugTemplate), (⟨"jira", "story", "rust"⟩, storyTemplate)]
  fragments := [("house", housePart)]

/-- The fragment once more, in another file. -/
def housePartCopy : Definition := { housePart with source := "copy.yaml" }

lemma ofDefinitions_house :
    ofDefinitions [bugTemplate, housePart, storyTemplate] = .ok houseStore := rfl

lemma merge_storyTemplate :
    houseStore.merge storyTemplate =
      .error (.fragmentNotFound "legal" "jira/story/rust@2") := by cbv

theorem ofDefinitions_order_renamed :
    ofDefinitions [bugTemplate, housePart, storyTemplate] = .ok houseStore ∧
      ofDefinitions [storyTemplate, bugTemplate, housePart] = .ok houseStore ∧
      (⟨"jira", "story", "rust"⟩, .fragmentNotFound "legal" "jira/story/rust@2") ∈
        houseStore.broken ∧
      ofDefinitions [bugTemplate, housePart, storyTemplate, housePartCopy] =
        .error (.duplicate "fragment:house" "house.yaml" "copy.yaml") := by
  obtain ⟨hfit, hsame, -⟩ := ofDefinitions_order [bugTemplate, housePart, storyTemplate]
  have hdistinct := hfit.mp ⟨houseStore, ofDefinitions_house⟩
  obtain ⟨hperm, -, -, hbroken⟩ := hsame houseStore ofDefinitions_house
  have hrenamed : ([bugTemplate, housePart] ++ [storyTemplate]).Perm
      ([storyTemplate] ++ [bugTemplate, housePart]) := List.perm_append_comm
  refine ⟨ofDefinitions_house, hperm _ hrenamed, ?_, ?_⟩
  · apply (hbroken _ _).mpr
    exact ⟨storyTemplate, by simp, rfl, merge_storyTemplate⟩
  · apply ((ofDefinitions_order _).2.2 _).mpr
    exact ⟨housePart, housePartCopy,
      ⟨[bugTemplate, housePart, storyTemplate], [], rfl, hdistinct, rfl⟩, rfl⟩

end Store

end Docket
