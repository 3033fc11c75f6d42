import Mathlib.Data.List.Sort
import Mathlib.Tactic.Lemma

/-!
# Lists of entries

Caches, stores and maps are lists of entries by key.  If no key comes twice, such a list is as good
as the function that looks keys up in it: filtering the list filters what is found
(`lookup_filter_of_nodup`), and two lists in which the keys are in order are the same if the same is
found in them (`OrderedBy.eq_of_lookup_eq`).
-/

namespace Docket

section Entries

variable {κ β : Type} [DecidableEq κ] {l l' : List (κ × β)} {k : κ}

lemma mem_of_lookup {b : β} (h : l.lookup k = some b) : (k, b) ∈ l := by
  obtain ⟨before, after, rfl, -⟩ := List.lookup_eq_some_iff.mp h
  simp

lemma lookup_cons_eq_ite (k other : κ) (b : β) (rest : List (κ × β)) :
    List.lookup k ((other, b) :: rest) = if k = other then some b else rest.lookup k := by
  by_cases hk : k = other
  · simp [hk]
  · simp [List.lookup_cons, hk, beq_eq_false_iff_ne.mpr hk]

/-- Every entry is found, if no key comes twice. -/
lemma lookup_of_mem (h : (l.map Prod.fst).Nodup) {x : κ × β} (hx : x ∈ l) :
    l.lookup x.1 = some x.2 := by
  induction l with
  | nil => simp at hx
  | cons y rest ih =>
      obtain ⟨hfirst, hrest⟩ := List.nodup_cons.mp h
      rw [lookup_cons_eq_ite]
      rcases List.mem_cons.mp hx with rfl | hx
      · rw [if_pos rfl]
      · have hne : x.1 ≠ y.1 := fun heq => hfirst (heq ▸ List.mem_map_of_mem hx)
        rw [if_neg hne, ih hrest hx]

lemma lookup_filter_keys (p : κ → Bool) :
    (l.filter fun x => p x.1).lookup k = if p k then l.lookup k else none := by
  induction l with
  | nil => simp
  | cons x rest ih => grind

lemma lookup_filter_of_nodup (h : (l.map Prod.fst).Nodup) (p : κ × β → Bool) :
    (l.filter p).lookup k = (l.lookup k).filter fun b => p (k, b) := by
  induction l with
  | nil => simp
  | cons x rest ih => grind [List.lookup_eq_none_iff]

end Entries

/-! ## Entries in order -/

section Ordered

variable {κ β ρ : Type} [LinearOrder ρ] {rank : κ → ρ} {l l' : List (κ × β)}

/-- The ranks of the keys increase. -/
def OrderedBy (rank : κ → ρ) (l : List (κ × β)) : Prop :=
  l.Pairwise fun x y => rank x.1 < rank y.1

namespace OrderedBy

lemma nodup_keys (h : OrderedBy rank l) : (l.map Prod.fst).Nodup := by
  apply List.pairwise_map.mpr
  apply List.Pairwise.imp _ h
  intro x y hlt heq
  rw [heq] at hlt
  exact lt_irrefl _ hlt

/-- What is found is what is listed. -/
lemma lookup_eq_some_iff [DecidableEq κ] (h : OrderedBy rank l) {k : κ} {b : β} :
    l.lookup k = some b ↔ (k, b) ∈ l :=
  ⟨mem_of_lookup, fun hmem => lookup_of_mem h.nodup_keys hmem⟩

/-- Entries in order are determined by which ones they are. -/
lemma eq_of_mem_iff (h : OrderedBy rank l) (h' : OrderedBy rank l')
    (hmem : ∀ x, x ∈ l ↔ x ∈ l') : l = l' := by
  have : Std.Irrefl fun x y : κ × β => rank x.1 < rank y.1 := ⟨fun _ => lt_irrefl _⟩
  have : Std.Antisymm fun x y : κ × β => rank x.1 < rank y.1 :=
    ⟨fun _ _ hxy hyx => absurd hyx hxy.asymm⟩
  exact List.Pairwise.eq_of_mem_iff h h' hmem

/-- Entries in order are determined by what is found under each key. -/
lemma eq_of_lookup_eq [DecidableEq κ] (h : OrderedBy rank l) (h' : OrderedBy rank l')
    (hlookup : ∀ k, l.lookup k = l'.lookup k) : l = l' := by
  apply h.eq_of_mem_iff h'
  intro x
  rw [← h.lookup_eq_some_iff, ← h'.lookup_eq_some_iff, hlookup]

end OrderedBy

end Ordered

end Docket
