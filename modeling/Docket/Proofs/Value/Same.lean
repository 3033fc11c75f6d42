import Docket.Proofs.Value.Settled

/-!
# Equal data

Data is equal if its parts are: lists item by item, maps key by key.  The order in which the keys of
a map are given does not count, and of a repeated key the last value does.  `Value.Same` says this
without sorting anything.

`Value.settled` is the normal form of equal data: two values are the same data exactly if they are
settled to the same value (`Value.same_iff_settled`).  What carries it is that entries with
increasing keys are determined by what is found under each key (`Value.Increasing.ext`).

Numbers are equal if they are the same number of the same kind, so neither `1` and `1.0` nor the
zeros of both signs are; they are written, and rendered, differently.
-/

namespace Docket.Value

/-! ## What a key is given -/

/-- The value that entries give to a key: the last one. -/
def given? (key : String) (entries : List (String × Value)) : Option Value :=
  lookup key entries.reverse

lemma mem_of_given? {key : String} {entries : List (String × Value)} {v : Value}
    (h : given? key entries = some v) : (key, v) ∈ entries :=
  List.mem_reverse.mp (mem_of_lookup_eq_some h)

lemma lookup_sortEntries (key : String) (entries : List (String × Value)) :
    lookup key (sortEntries entries) = given? key entries := by
  have hset := lookup_setKeys key entries []
  rwa [lookup, Option.or_none] at hset

lemma lookup_map (f : Value → Value) (key : String) (entries : List (String × Value)) :
    lookup key (entries.map fun e => (e.1, f e.2)) = (lookup key entries).map f := by
  induction entries with
  | nil => rfl
  | cons e rest ih =>
      rw [List.map_cons, lookup, lookup, ih]
      by_cases hkey : key = e.1
      · simp [hkey]
      · simp [hkey]

lemma given?_settledEntries (key : String) (entries : List (String × Value)) :
    given? key (settledEntries entries) = (given? key entries).map settled := by
  rw [given?, settledEntries_eq, ← List.map_reverse, lookup_map, given?]

/-- Entries with increasing keys are determined by what is found under each key. -/
lemma Increasing.ext {entries entries' : List (String × Value)} (h : Increasing entries)
    (h' : Increasing entries') (hlookup : ∀ key, lookup key entries = lookup key entries') :
    entries = entries' := by
  have hordered : OrderedBy id entries := h
  apply hordered.eq_of_lookup_eq h'
  intro key
  rw [← lookup_eq, ← lookup_eq, hlookup]

/-! ## Normal forms -/

lemma settled_list_eq_iff {items items' : List Value} :
    (list items).settled = (list items').settled ↔ items.map settled = items'.map settled := by
  rw [settled, settled, list.injEq, settledItems_eq, settledItems_eq]

lemma settled_map_eq_iff {entries entries' : List (String × Value)} :
    (map entries).settled = (map entries').settled ↔
      ∀ key, (given? key entries).map settled = (given? key entries').map settled := by
  rw [settled, settled, mapOf, mapOf, map.injEq]
  constructor
  · intro h key
    rw [← given?_settledEntries, ← given?_settledEntries, ← lookup_sortEntries,
      ← lookup_sortEntries, h]
  · intro h
    apply (increasing_sortEntries _).ext (increasing_sortEntries _)
    intro key
    rw [lookup_sortEntries, lookup_sortEntries, given?_settledEntries, given?_settledEntries, h]

/-- An entry of a settled map was given, with a value that has been settled. -/
lemma mem_sortEntries_settled {entries : List (String × Value)} {e : String × Value}
    (h : e ∈ sortEntries (settledEntries entries)) :
    ∃ e' ∈ entries, e = (e'.1, e'.2.settled) := by
  rcases mem_setKeys h with h | h
  · rw [settledEntries_eq] at h
    obtain ⟨e', he', rfl⟩ := List.mem_map.mp h
    exact ⟨e', he', rfl⟩
  · simp at h

lemma settled_settled (v : Value) : v.settled.settled = v.settled := by
  induction v using induction_parts with
  | null | bool | number | text => rfl
  | list items ih =>
      rw [settled, settled_list_iff, settledItems_eq]
      exact List.forall_mem_map.mpr ih
  | map entries ih =>
      rw [settled, mapOf, settled_map_iff]
      refine ⟨increasing_sortEntries _, fun e he => ?_⟩
      obtain ⟨e', he', rfl⟩ := mem_sortEntries_settled he
      exact ih e' he'

/-! ## Equal data -/

/-- `Same v w`: the two values are equal data. -/
inductive Same : Value → Value → Prop where
  | null : Same null null
  | bool (b : Bool) : Same (bool b) (bool b)
  | number (n : Number) : Same (number n) (number n)
  | text (s : String) : Same (text s) (text s)
  /-- Lists have equal items at equal positions. -/
  | list {items items' : List Value} : items.length = items'.length →
    (∀ (i : Nat) (v w : Value), items[i]? = some v → items'[i]? = some w → Same v w) →
    Same (list items) (list items')
  /-- Maps give equal values to equal keys. -/
  | map {entries entries' : List (String × Value)} :
    (∀ key, (given? key entries).isSome = (given? key entries').isSome) →
    (∀ key v w, given? key entries = some v → given? key entries' = some w → Same v w) →
    Same (map entries) (map entries')

lemma Same.settled_eq {v w : Value} (h : Same v w) : v.settled = w.settled := by
  induction h with
  | null | bool | number | text => rfl
  | list hlength _ ih =>
      rw [settled_list_eq_iff]
      apply List.ext_getElem
      · simpa using hlength
      · intro i hi hi'
        rw [List.length_map] at hi hi'
        rw [List.getElem_map, List.getElem_map]
        exact ih i _ _ (List.getElem?_eq_getElem hi) (List.getElem?_eq_getElem hi')
  | @map entries entries' hkeys _ ih =>
      rw [settled_map_eq_iff]
      intro key
      have hkey := hkeys key
      cases hv : given? key entries with
      | none =>
          rw [hv, Option.isSome_none, eq_comm, Option.isSome_eq_false_iff,
            Option.isNone_iff_eq_none] at hkey
          rw [hkey]
      | some v =>
          rw [hv, Option.isSome_some, eq_comm, Option.isSome_iff_exists] at hkey
          obtain ⟨w, hw⟩ := hkey
          rw [hw, Option.map_some, Option.map_some, ih key v w hv hw]

lemma same_of_settled_eq {v w : Value} (h : v.settled = w.settled) : Same v w := by
  induction v using induction_parts generalizing w with
  | null =>
      cases w with
      | null => exact .null
      | _ => simp [settled, mapOf] at h
  | bool b =>
      cases w with
      | bool b' =>
          obtain rfl : b = b' := bool.inj h
          exact .bool b
      | _ => simp [settled, mapOf] at h
  | number n =>
      cases w with
      | number n' =>
          obtain rfl : n = n' := number.inj h
          exact .number n
      | _ => simp [settled, mapOf] at h
  | text s =>
      cases w with
      | text s' =>
          obtain rfl : s = s' := text.inj h
          exact .text s
      | _ => simp [settled, mapOf] at h
  | list items ih =>
      cases w with
      | list items' =>
          rw [settled_list_eq_iff] at h
          have hlength := congrArg List.length h
          rw [List.length_map, List.length_map] at hlength
          refine .list hlength fun i v w hv hw => ih v (List.mem_of_getElem? hv) ?_
          have hitem := congrArg (fun l => l[i]?) h
          simpa [hv, hw] using hitem
      | _ => simp [settled, mapOf] at h
  | map entries ih =>
      cases w with
      | map entries' =>
          rw [settled_map_eq_iff] at h
          refine .map (fun key => ?_) fun key v w hv hw => ?_
          · have hsome := congrArg Option.isSome (h key)
            rwa [Option.isSome_map, Option.isSome_map] at hsome
          · have hkey := h key
            rw [hv, hw, Option.map_some, Option.map_some, Option.some.injEq] at hkey
            exact ih (key, v) (mem_of_given? hv) hkey
      | _ => simp [settled, mapOf] at h

/-- **Settled values are normal forms of equal data.** -/
theorem same_iff_settled {v w : Value} : Same v w ↔ v.settled = w.settled :=
  ⟨Same.settled_eq, same_of_settled_eq⟩

end Docket.Value
