import Docket.Proofs.Bindings.Gaps

/-!
# Asking something of every text

`Value.everyText` asks something of every text in a value and of every key of its maps, however
deep.  What holds of a value holds of everything below it, whichever way one goes down: through
members (`Reaches.everyText`) or along a path (`everyText_of_walk`).  So it holds of everything that
is bound if it holds of the context and of all defaults (`everyText_of_get?`).
-/

namespace Docket

namespace Value

mutual

/-- Whether the texts and the keys in a value pass a check. -/
def everyText (check : String → Bool) : Value → Bool
  | text s => check s
  | list items => everyTextOfItems check items
  | map entries => everyTextOfEntries check entries
  | _ => true

/-- Whether the texts and the keys in the items of a list pass a check. -/
def everyTextOfItems (check : String → Bool) : List Value → Bool
  | [] => true
  | v :: rest => everyText check v && everyTextOfItems check rest

/-- Whether the keys of a map, and the texts and the keys in its values, pass a check. -/
def everyTextOfEntries (check : String → Bool) : List (String × Value) → Bool
  | [] => true
  | (k, v) :: rest => check k && everyText check v && everyTextOfEntries check rest

end

variable {check : String → Bool} {v w : Value}

lemma everyText_list_iff {items : List Value} :
    (list items).everyText check ↔ ∀ v ∈ items, v.everyText check := by
  rw [everyText]
  induction items with
  | nil => simp [everyTextOfItems]
  | cons v rest ih => simp [everyTextOfItems, ih]

lemma everyText_map_iff {entries : List (String × Value)} :
    (map entries).everyText check ↔ ∀ e ∈ entries, check e.1 ∧ e.2.everyText check := by
  rw [everyText]
  induction entries with
  | nil => simp [everyTextOfEntries]
  | cons e rest ih => simp [everyTextOfEntries, ih]

/-! ## Going down -/

lemma everyText_of_mem_members (hv : v.everyText check) {m : Segment × Value}
    (hm : m ∈ v.members) : m.2.everyText check := by
  cases v with
  | map entries =>
      obtain ⟨e, he, rfl⟩ := List.mem_map.mp hm
      exact (everyText_map_iff.mp hv e he).2
  | list items =>
      obtain ⟨x, hx, rfl⟩ := List.mem_map.mp hm
      exact everyText_list_iff.mp hv x.1 (List.fst_mem_of_mem_zipIdx hx)
  | _ => cases hm

lemma Reaches.everyText {steps : List Segment} (h : v.Reaches steps w) (hv : v.everyText check) :
    w.everyText check := by
  induction h with
  | here => exact hv
  | down hm _ ih => exact ih (everyText_of_mem_members hv hm)

lemma everyText_of_step (hv : v.everyText check) {s : Segment} (h : v.step s = some w) :
    w.everyText check := by
  cases v with
  | map entries =>
      rw [Bindings.step_map] at h
      exact (everyText_map_iff.mp hv _ (mem_of_lookup_eq_some h)).2
  | list items =>
      cases s with
      | key name => cases h
      | index position => exact everyText_list_iff.mp hv w (List.mem_of_getElem? h)
  | _ => cases s <;> cases h

lemma everyText_of_walk (hv : v.everyText check) {steps : List Segment}
    (h : v.walk steps = some w) : w.everyText check := by
  induction steps generalizing v with
  | nil =>
      cases h
      exact hv
  | cons s rest ih =>
      obtain ⟨u, hstep, hrest⟩ := Option.bind_eq_some_iff.mp h
      exact ih (everyText_of_step hv hstep) hrest

end Value

namespace Bindings

/-- **Whatever is bound stands in the context or in a default**, so it passes every check of texts
that these pass. -/
lemma everyText_of_get? {check : String → Bool} {context : Value}
    (hcontext : context.everyText check) {schema : Schema}
    (hdefaults : ∀ d ∈ schema, ∀ v, d.2.default = some v → v.everyText check)
    {strictness : Strictness} {key : String} {w : Value}
    (h : (bind context schema strictness).get? key = some w) : w.everyText check := by
  cases hgap : (bind context [] strictness).get? key with
  | some w' =>
      rw [get?_bind_of_context context strictness hgap] at h
      cases h
      obtain ⟨steps, hreaches, -⟩ :=
        exists_placeBelow_of_mem_flatten (Value.mem_of_lookup_eq_some hgap)
      exact hreaches.everyText hcontext
  | none =>
      obtain ⟨before, d, after, v, steps, rfl, hdefault, -, hreaches, -⟩ :=
        origin_of_gap context strictness hgap h
      exact hreaches.everyText (hdefaults d List.mem_append_cons_self v hdefault)

end Bindings

end Docket
