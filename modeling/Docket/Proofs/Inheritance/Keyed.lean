import Docket.Inheritance.Layer
import Mathlib.Data.List.Induction
import Mathlib.Data.List.Nodup
import Mathlib.Tactic.Lemma

/-!
# Laying keyed entries over one another

Sections and schemas are lists of entries with keys.  Both are overlaid the same way: an entry whose
key is there already is combined with the one below, where that one stands, and an entry with a new
key goes to the end.  `Keyed.upsert` is this step and `Keyed.overlay` its iteration; the rule by
which two entries of one key combine is a parameter.

Three facts carry the theory of inheritance:

* `map_key_overlay_nil`: the keys of an overlay are those of all entries, each once, in the order in
  which they first occur;
* `find?_overlay_nil`: the entry of a key combines all entries of that key, from the bottom up;
* `overlay_overlay`: overlaying is associative, provided that the layer in the middle has each key
  once.  Without that the law fails, since a repeated entry of the middle layer would be combined
  once more after the upper one.

`overlaySections_eq` and `overlaySchema_eq` make both kinds of layers instances.
-/

namespace Docket

namespace Keyed

variable {α κ : Type} [DecidableEq κ]

/-! ## One step -/

/-- Lays one entry over others. -/
def upsert (key : α → κ) (combine : α → α → α) : List α → α → List α
  | [], x => [x]
  | a :: rest, x => if key a = key x then combine a x :: rest else a :: upsert key combine rest x

/-- Lays entries over others, one after another. -/
def overlay (key : α → κ) (combine : α → α → α) (lower upper : List α) : List α :=
  upper.foldl (upsert key combine) lower

/-- A rule of combination keeps the key that two entries share. -/
def KeepsKey (key : α → κ) (combine : α → α → α) : Prop :=
  ∀ a b, key a = key b → key (combine a b) = key b

variable {key : α → κ} {combine : α → α → α}

lemma map_key_upsert (hkey : KeepsKey key combine) (l : List α) (x : α) :
    (upsert key combine l x).map key =
      if key x ∈ l.map key then l.map key else l.map key ++ [key x] := by
  induction l with
  | nil => simp [upsert]
  | cons a rest ih =>
      by_cases h : key a = key x
      · simp [upsert, h, hkey a x h]
      · rw [upsert, if_neg h, List.map_cons, ih]
        simp only [List.map_cons, List.mem_cons, Ne.symm h, false_or]
        split <;> simp

lemma mem_map_key_upsert (hkey : KeepsKey key combine) (l : List α) (x : α) (k : κ) :
    k ∈ (upsert key combine l x).map key ↔ k ∈ l.map key ∨ k = key x := by
  rw [map_key_upsert hkey]
  split
  · rename_i hx
    exact ⟨Or.inl, fun h => h.elim id fun h => h ▸ hx⟩
  · simp only [List.mem_append, List.mem_singleton]

lemma nodup_map_key_upsert (hkey : KeepsKey key combine) {l : List α} (hl : (l.map key).Nodup)
    (x : α) : ((upsert key combine l x).map key).Nodup := by
  rw [map_key_upsert hkey]
  split
  · exact hl
  · rename_i hx
    exact List.nodup_append.mpr ⟨hl, List.nodup_singleton _, fun a ha b hb hab => hx (by
      rw [List.mem_singleton] at hb
      exact hb ▸ hab ▸ ha)⟩

/-- An entry of a key that is there already, and one of another key, may change places. -/
lemma upsert_comm (hkey : KeepsKey key combine) {l : List α} {x y : α} (hx : key x ∈ l.map key)
    (hxy : key y ≠ key x) :
    upsert key combine (upsert key combine l y) x =
      upsert key combine (upsert key combine l x) y := by
  induction l with
  | nil => simp at hx
  | cons a rest ih =>
      by_cases hax : key a = key x
      · have hay : key a ≠ key y := fun h => hxy (h ▸ hax)
        have hcy : key (combine a x) ≠ key y := by rw [hkey a x hax]; exact hxy.symm
        rw [upsert, if_neg hay, upsert, if_pos hax, upsert, if_pos hax, upsert, if_neg hcy]
      · have hrest : key x ∈ rest.map key := by
          rcases List.mem_cons.mp hx with h | h
          · exact absurd h.symm hax
          · exact h
        by_cases hay : key a = key y
        · have hcx : key (combine a y) ≠ key x := by rw [hkey a y hay]; exact hxy
          rw [upsert, if_pos hay, upsert, if_neg hcx, upsert, if_neg hax, upsert, if_pos hay]
        · rw [upsert, if_neg hay, upsert, if_neg hax, ih hrest, upsert, if_neg hax, upsert,
            if_neg hay]

/-- Two entries of one key may be combined beforehand. -/
lemma upsert_combine (hkey : KeepsKey key combine)
    (hassoc : ∀ a b c, combine (combine a b) c = combine a (combine b c))
    (l : List α) {x y : α} (hxy : key x = key y) :
    upsert key combine l (combine x y) = upsert key combine (upsert key combine l x) y := by
  have hc : key (combine x y) = key x := (hkey x y hxy).trans hxy.symm
  induction l with
  | nil => simp [upsert, hxy]
  | cons a rest ih =>
      by_cases ha : key a = key x
      · have hax : key (combine a x) = key y := (hkey a x ha).trans hxy
        rw [upsert, if_pos (ha.trans hc.symm), upsert, if_pos ha, upsert, if_pos hax, hassoc]
      · have hay : key a ≠ key y := fun h => ha (h.trans hxy.symm)
        rw [upsert, if_neg (hc ▸ ha), upsert, if_neg ha, upsert, if_neg hay, ih]

/-! ## Many steps -/

@[simp] lemma overlay_nil (l : List α) : overlay key combine l [] = l := rfl

@[simp] lemma overlay_cons (l : List α) (x : α) (xs : List α) :
    overlay key combine l (x :: xs) = overlay key combine (upsert key combine l x) xs := rfl

lemma overlay_append (l xs ys : List α) :
    overlay key combine l (xs ++ ys) = overlay key combine (overlay key combine l xs) ys :=
  List.foldl_append

lemma nodup_map_key_overlay (hkey : KeepsKey key combine) {l : List α} (hl : (l.map key).Nodup)
    (xs : List α) : ((overlay key combine l xs).map key).Nodup := by
  induction xs generalizing l with
  | nil => exact hl
  | cons x xs ih => exact ih (nodup_map_key_upsert hkey hl x)

/-- One more element at the end is a first occurrence or none. -/
lemma eraseDups_concat (l : List κ) (k : κ) :
    (l ++ [k]).eraseDups = if k ∈ l then l.eraseDups else l.eraseDups ++ [k] := by
  rw [List.eraseDups_append]
  by_cases hk : k ∈ l
  · simp [List.removeAll, hk]
  · simp [List.removeAll, hk, List.eraseDups_cons]

/-- The keys of an overlay over nothing: each once, in the order of first occurrence. -/
lemma map_key_overlay_nil (hkey : KeepsKey key combine) (xs : List α) :
    (overlay key combine [] xs).map key = (xs.map key).eraseDups := by
  induction xs using List.reverseRecOn with
  | nil => rfl
  | append_singleton xs x ih =>
      rw [overlay_append, overlay_cons, overlay_nil, map_key_upsert hkey, ih, List.map_append,
        List.map_singleton, eraseDups_concat]
      simp only [List.mem_eraseDups]

/-- Below an overlay with other keys, an entry of a key that is there already may come last. -/
lemma upsert_overlay_comm (hkey : KeepsKey key combine) {l : List α} {x : α} {ys : List α}
    (hx : key x ∈ l.map key) (hys : key x ∉ ys.map key) :
    upsert key combine (overlay key combine l ys) x =
      overlay key combine (upsert key combine l x) ys := by
  induction ys generalizing l with
  | nil => rfl
  | cons y ys ih =>
      rw [List.map_cons, List.mem_cons, not_or] at hys
      have hy : key x ∈ (upsert key combine l y).map key :=
        (mem_map_key_upsert hkey l y _).mpr (.inl hx)
      rw [overlay_cons, overlay_cons, ih hy hys.2, upsert_comm hkey hx (Ne.symm hys.1)]

/-- Laying an entry over the middle layer first, or over everything last, is the same. -/
lemma overlay_upsert (hkey : KeepsKey key combine)
    (hassoc : ∀ a b c, combine (combine a b) c = combine a (combine b c))
    (l : List α) {middle : List α} (hm : (middle.map key).Nodup) (x : α) :
    overlay key combine l (upsert key combine middle x) =
      upsert key combine (overlay key combine l middle) x := by
  induction middle generalizing l with
  | nil => rfl
  | cons b middle ih =>
      rw [List.map_cons, List.nodup_cons] at hm
      by_cases hb : key b = key x
      · -- `b` is the only entry of this key, so the rest of the middle layer lets `x` pass
        have hin : key x ∈ (upsert key combine l b).map key :=
          (mem_map_key_upsert hkey l b _).mpr (.inr hb.symm)
        rw [upsert, if_pos hb, overlay_cons, overlay_cons, upsert_combine hkey hassoc l hb,
          upsert_overlay_comm hkey hin (hb ▸ hm.1)]
      · rw [upsert, if_neg hb, overlay_cons, overlay_cons, ih _ hm.2]

/-- Overlaying is associative if the layer in the middle has each key once. -/
lemma overlay_overlay (hkey : KeepsKey key combine)
    (hassoc : ∀ a b c, combine (combine a b) c = combine a (combine b c))
    (l : List α) {middle : List α} (hm : (middle.map key).Nodup) (upper : List α) :
    overlay key combine l (overlay key combine middle upper) =
      overlay key combine (overlay key combine l middle) upper := by
  induction upper generalizing middle with
  | nil => rfl
  | cons x upper ih =>
      rw [overlay_cons, overlay_cons, ih (nodup_map_key_upsert hkey hm x),
        overlay_upsert hkey hassoc l hm x]

/-! ## The entry of a key -/

/-- What an entry makes of what is known of its key so far. -/
def accumulate (combine : α → α → α) : Option α → α → Option α
  | none, x => some x
  | some a, x => some (combine a x)

lemma find?_upsert (hkey : KeepsKey key combine) (l : List α) (x : α) (k : κ) :
    (upsert key combine l x).find? (fun a => key a = k) =
      if key x = k then accumulate combine (l.find? fun a => key a = k) x
      else l.find? fun a => key a = k := by
  induction l with
  | nil => by_cases hx : key x = k <;> simp [upsert, accumulate, hx]
  | cons a rest ih =>
      by_cases ha : key a = key x
      · by_cases hx : key x = k
        · simp [upsert, accumulate, ha, hx, hkey a x ha]
        · simp [upsert, ha, hx, hkey a x ha]
      · by_cases hk : key a = k
        · have hx : key x ≠ k := fun h => ha (hk.trans h.symm)
          rw [upsert, if_neg ha]
          simp [hk, hx]
        · rw [upsert, if_neg ha]
          simp [hk, ih]

/-- The entry of a key in an overlay combines the one below with all entries of that key above. -/
lemma find?_overlay (hkey : KeepsKey key combine) (l xs : List α) (k : κ) :
    (overlay key combine l xs).find? (fun a => key a = k) =
      (xs.filter fun a => key a = k).foldl (accumulate combine) (l.find? fun a => key a = k) := by
  induction xs generalizing l with
  | nil => rfl
  | cons x xs ih =>
      rw [overlay_cons, ih, find?_upsert hkey]
      by_cases hx : key x = k <;> simp [hx]

lemma find?_overlay_nil (hkey : KeepsKey key combine) (xs : List α) (k : κ) :
    (overlay key combine [] xs).find? (fun a => key a = k) =
      (xs.filter fun a => key a = k).foldl (accumulate combine) none :=
  find?_overlay hkey [] xs k

/-- An entry of a list that has each key once is the one found under its key. -/
lemma find?_key_of_mem {l : List α} (hl : (l.map key).Nodup) {a : α} (ha : a ∈ l) :
    l.find? (fun b => key b = key a) = some a := by
  induction l with
  | nil => simp at ha
  | cons b rest ih =>
      rw [List.map_cons, List.nodup_cons] at hl
      rcases List.mem_cons.mp ha with rfl | ha
      · simp
      · have hb : key b ≠ key a := fun h => hl.1 (h ▸ List.mem_map_of_mem ha)
        simpa [hb] using ih hl.2 ha

end Keyed

end Docket
