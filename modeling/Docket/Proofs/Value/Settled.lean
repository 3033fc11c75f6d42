import Docket.Proofs.Entries.Lookup
import Docket.Value.Basic
import Mathlib.Data.String.Basic
import Mathlib.Tactic.Lemma

/-!
# Settled values

A value as data is held has the keys of every map in increasing order, each once.  `Value.settled`
brings every value into this form, so a value is in it exactly if settling does not change it, and
then all its parts are (`settled_list_iff`, `settled_map_iff`).

`Value.everyMap` asks something of every map in a value, however deep.
-/

namespace Docket.Value

/-! ## Induction over the parts of a value -/

/-- What the parts of a list or map pass on to it, and scalars have, holds of all values. -/
@[elab_as_elim]
theorem induction_parts {P : Value → Prop} (null : P null) (bool : ∀ b, P (bool b))
    (number : ∀ n, P (number n)) (text : ∀ s, P (text s))
    (list : ∀ items, (∀ v ∈ items, P v) → P (list items))
    (map : ∀ entries, (∀ e ∈ entries, P e.2) → P (map entries)) (v : Value) : P v := by
  match v with
  | .null => exact null
  | .bool b => exact bool b
  | .number n => exact number n
  | .text s => exact text s
  | .list items =>
      refine list items fun v hv => ?_
      have hsmaller : sizeOf v < sizeOf (Value.list items) :=
        (List.sizeOf_lt_of_mem hv).trans (by simp)
      exact induction_parts null bool number text list map v
  | .map entries =>
      refine map entries fun e he => ?_
      have hvalue : sizeOf e.2 < sizeOf e := by
        obtain ⟨key, v⟩ := e
        simp
      have hsmaller : sizeOf e.2 < sizeOf (Value.map entries) :=
        (hvalue.trans (List.sizeOf_lt_of_mem he)).trans (by simp)
      exact induction_parts null bool number text list map e.2
termination_by sizeOf v
decreasing_by all_goals exact hsmaller

/-! ## Looking up -/

/-- Looking up is the look-up of lists of pairs. -/
lemma lookup_eq (key : String) (entries : List (String × Value)) :
    lookup key entries = entries.lookup key := by
  induction entries with
  | nil => rfl
  | cons e rest ih =>
      rw [lookup, List.lookup_cons, ih]
      by_cases h : key = e.1
      · simp [h]
      · simp [h, beq_eq_false_iff_ne.mpr h]

lemma lookup_append (key : String) (entries entries' : List (String × Value)) :
    lookup key (entries ++ entries') = (lookup key entries).or (lookup key entries') := by
  rw [lookup_eq, lookup_eq, lookup_eq, List.lookup_append]

lemma lookup_eq_some_iff {key : String} {entries : List (String × Value)} {v : Value} :
    lookup key entries = some v ↔
      ∃ before after, entries = before ++ (key, v) :: after ∧ ∀ e ∈ before, key ≠ e.1 := by
  simp [lookup_eq, List.lookup_eq_some_iff]

lemma lookup_eq_none_iff {key : String} {entries : List (String × Value)} :
    lookup key entries = none ↔ ∀ e ∈ entries, key ≠ e.1 := by
  simp [lookup_eq, List.lookup_eq_none_iff]

lemma mem_of_lookup_eq_some {key : String} {entries : List (String × Value)} {v : Value}
    (h : lookup key entries = some v) : (key, v) ∈ entries := by
  rw [lookup_eq] at h
  exact mem_of_lookup h

/-! ## Increasing keys -/

/-- Entries whose keys increase. -/
def Increasing (entries : List (String × Value)) : Prop := entries.Pairwise fun a b => a.1 < b.1

/-- Every entry of a map with increasing keys is found. -/
lemma Increasing.lookup_of_mem {entries : List (String × Value)} (h : Increasing entries)
    {key : String} {v : Value} (hmem : (key, v) ∈ entries) : lookup key entries = some v := by
  have hordered : OrderedBy id entries := h
  rw [lookup_eq]
  exact hordered.lookup_eq_some_iff.mpr hmem

lemma lookup_setKey (key k : String) (v : Value) (entries : List (String × Value)) :
    lookup key (setKey k v entries) = if key = k then some v else lookup key entries := by
  induction entries with
  | nil => rfl
  | cons e rest ih =>
      rw [setKey]
      split
      · rfl
      · split
        · rename_i heq
          subst heq
          simp only [lookup]
          split <;> rfl
        · rename_i hne
          rw [lookup, ih, lookup]
          by_cases h : key = e.1 <;> by_cases hk : key = k <;> simp_all

lemma mem_setKey {k : String} {v : Value} {entries : List (String × Value)} {e : String × Value}
    (h : e ∈ setKey k v entries) : e = (k, v) ∨ e ∈ entries := by
  induction entries with
  | nil => simpa [setKey] using h
  | cons e' rest ih =>
      rw [setKey] at h
      grind

lemma Increasing.setKey {entries : List (String × Value)} (h : Increasing entries) (k : String)
    (v : Value) : Increasing (setKey k v entries) := by
  induction entries with
  | nil => exact List.pairwise_singleton _ _
  | cons e rest ih =>
      obtain ⟨he, hrest⟩ := List.pairwise_cons.mp h
      rw [Value.setKey]
      split
      · rename_i hlt
        refine List.pairwise_cons.mpr ⟨List.forall_mem_cons.mpr ⟨hlt, fun e' he' => ?_⟩, h⟩
        exact hlt.trans (he e' he')
      · split
        · rename_i heq
          exact List.pairwise_cons.mpr ⟨fun e' he' => heq ▸ he e' he', hrest⟩
        · rename_i hlt hne
          refine List.pairwise_cons.mpr ⟨fun e' he' => ?_, ih hrest⟩
          rcases mem_setKey he' with rfl | he'
          · exact lt_of_le_of_ne (not_lt.mp hlt) (Ne.symm hne)
          · exact he e' he'

/-- Sets the keys of entries one after another. -/
def setKeys (entries onto : List (String × Value)) : List (String × Value) :=
  entries.foldl (fun acc (k, v) => setKey k v acc) onto

lemma setKeys_cons (e : String × Value) (entries onto : List (String × Value)) :
    setKeys (e :: entries) onto = setKeys entries (setKey e.1 e.2 onto) := rfl

lemma mem_setKeys {entries onto : List (String × Value)} {e : String × Value}
    (h : e ∈ setKeys entries onto) : e ∈ entries ∨ e ∈ onto := by
  induction entries generalizing onto with
  | nil => exact .inr h
  | cons e' rest ih =>
      rcases ih (setKeys_cons e' rest onto ▸ h) with h | h
      · exact .inl (List.mem_cons_of_mem _ h)
      · rcases mem_setKey h with rfl | h
        · exact .inl List.mem_cons_self
        · exact .inr h

lemma forall_mem_setKeys {entries onto : List (String × Value)} {P : String × Value → Prop}
    (h : ∀ e ∈ entries, P e) (honto : ∀ e ∈ onto, P e) : ∀ e ∈ setKeys entries onto, P e :=
  fun e he => (mem_setKeys he).elim (h e) (honto e)

lemma Increasing.setKeys {onto : List (String × Value)} (h : Increasing onto)
    (entries : List (String × Value)) : Increasing (setKeys entries onto) := by
  induction entries generalizing onto with
  | nil => exact h
  | cons e rest ih => exact ih (h.setKey e.1 e.2)

/-- Of the keys that are set, the last one of a kind counts; the others are found as before. -/
lemma lookup_setKeys (key : String) (entries onto : List (String × Value)) :
    lookup key (setKeys entries onto) =
      (lookup key entries.reverse).or (lookup key onto) := by
  induction entries generalizing onto with
  | nil => rfl
  | cons e rest ih =>
      rw [setKeys_cons, ih, lookup_setKey, List.reverse_cons, lookup_append, Option.or_assoc]
      congr 1
      simp only [lookup]
      split <;> rfl

lemma Increasing.lookup_reverse {entries : List (String × Value)} (h : Increasing entries)
    (key : String) : lookup key entries.reverse = lookup key entries := by
  cases hlookup : lookup key entries with
  | none => simpa [lookup_eq_none_iff] using hlookup
  | some v =>
      obtain ⟨before, after, rfl, -⟩ := lookup_eq_some_iff.mp hlookup
      refine lookup_eq_some_iff.mpr ⟨after.reverse, before.reverse, by simp, fun e he => ?_⟩
      have hcons := (List.pairwise_append.mp h).2.1
      exact ((List.pairwise_cons.mp hcons).1 e (List.mem_reverse.mp he)).ne

/-- Setting increasing keys: they are found with their new values, the others as before. -/
lemma Increasing.lookup_setKeys {entries : List (String × Value)} (h : Increasing entries)
    (key : String) (onto : List (String × Value)) :
    lookup key (Value.setKeys entries onto) = (lookup key entries).or (lookup key onto) := by
  rw [Value.lookup_setKeys, h.lookup_reverse]

lemma increasing_sortEntries (entries : List (String × Value)) :
    Increasing (sortEntries entries) := by
  have hnil : Increasing [] := List.Pairwise.nil
  exact hnil.setKeys entries

/-- A key above all others goes to the end. -/
lemma setKey_of_forall_lt {k : String} {v : Value} {entries : List (String × Value)}
    (h : ∀ e ∈ entries, e.1 < k) : setKey k v entries = entries ++ [(k, v)] := by
  induction entries with
  | nil => rfl
  | cons e rest ih =>
      obtain ⟨he, hrest⟩ := List.forall_mem_cons.mp h
      rw [setKey, if_neg he.asymm, if_neg he.ne', ih hrest, List.cons_append]

lemma Increasing.setKeys_append {before entries : List (String × Value)}
    (h : Increasing (before ++ entries)) : Value.setKeys entries before = before ++ entries := by
  induction entries generalizing before with
  | nil => rw [List.append_nil]; rfl
  | cons e rest ih =>
      have hlast : ∀ e' ∈ before, e'.1 < e.1 := fun e' he' =>
        (List.pairwise_append.mp h).2.2 e' he' e List.mem_cons_self
      rw [setKeys_cons, setKey_of_forall_lt hlast, ih (by simpa using h)]
      simp

lemma Increasing.sortEntries_eq {entries : List (String × Value)} (h : Increasing entries) :
    sortEntries entries = entries := by
  have hall : Increasing ([] ++ entries) := h
  exact hall.setKeys_append

/-! ## Settled values -/

lemma settledItems_eq (items : List Value) : settledItems items = items.map settled := by
  induction items with
  | nil => rfl
  | cons v rest ih => rw [settledItems, ih, List.map_cons]

lemma settledEntries_eq (entries : List (String × Value)) :
    settledEntries entries = entries.map fun e => (e.1, e.2.settled) := by
  induction entries with
  | nil => rfl
  | cons e rest ih => rw [settledEntries, ih, List.map_cons]

lemma map_eq_self_iff {α : Type} {f : α → α} {l : List α} :
    l.map f = l ↔ ∀ a ∈ l, f a = a := by
  simpa using List.map_inj_left (f := f) (g := id) (l := l)

/-- A list is settled if its items are. -/
lemma settled_list_iff {items : List Value} :
    (list items).settled = list items ↔ ∀ v ∈ items, v.settled = v := by
  rw [settled, list.injEq, settledItems_eq, map_eq_self_iff]

/-- A map is settled if its keys increase and its values are settled. -/
lemma settled_map_iff {entries : List (String × Value)} :
    (map entries).settled = map entries ↔
      Increasing entries ∧ ∀ e ∈ entries, e.2.settled = e.2 := by
  have hself : (∀ e ∈ entries, e.2.settled = e.2) ↔ settledEntries entries = entries := by
    rw [settledEntries_eq, map_eq_self_iff]
    simp [Prod.ext_iff]
  rw [settled, mapOf, map.injEq, hself]
  constructor
  · intro h
    have hincreasing : Increasing entries := h ▸ increasing_sortEntries _
    refine ⟨hincreasing, ?_⟩
    -- settling keeps the keys, so there was nothing to sort
    have hkeys : Increasing (settledEntries entries) := by
      rw [settledEntries_eq, Increasing, List.pairwise_map]
      exact hincreasing
    rwa [hkeys.sortEntries_eq] at h
  · rintro ⟨hincreasing, h⟩
    rw [h, hincreasing.sortEntries_eq]

/-! ## Every map in a value -/

mutual

/-- Whether the entries of every map in a value pass a check. -/
def everyMap (check : List (String × Value) → Bool) : Value → Bool
  | list items => everyMapOfItems check items
  | map entries => check entries && everyMapOfEntries check entries
  | _ => true

/-- Whether the entries of every map in the items of a list pass a check. -/
def everyMapOfItems (check : List (String × Value) → Bool) : List Value → Bool
  | [] => true
  | v :: rest => everyMap check v && everyMapOfItems check rest

/-- Whether the entries of every map in the values of a map pass a check. -/
def everyMapOfEntries (check : List (String × Value) → Bool) : List (String × Value) → Bool
  | [] => true
  | (_, v) :: rest => everyMap check v && everyMapOfEntries check rest

end

variable {check : List (String × Value) → Bool}

lemma everyMap_list_iff {items : List Value} :
    (list items).everyMap check ↔ ∀ v ∈ items, v.everyMap check := by
  rw [everyMap]
  induction items with
  | nil => simp [everyMapOfItems]
  | cons v rest ih => simp [everyMapOfItems, ih]

lemma everyMap_map_iff {entries : List (String × Value)} :
    (map entries).everyMap check ↔ check entries ∧ ∀ e ∈ entries, e.2.everyMap check := by
  have hentries : everyMapOfEntries check entries ↔ ∀ e ∈ entries, e.2.everyMap check := by
    induction entries with
    | nil => simp [everyMapOfEntries]
    | cons e rest ih => simp [everyMapOfEntries, ih]
  rw [everyMap, Bool.and_eq_true, hentries]

end Docket.Value
