import Docket.Proofs.Inheritance.Keyed

/-!
# Piles of definitions

Sections and schemas are overlaid entry by entry (`overlaySections_eq`, `overlaySchema_eq`), so the
theory of keyed entries applies to both.  Laying layers over one another is associative as long as
the layer in the middle has each name once (`Layer.overlay_assoc`), which every overlay over nothing
has (`Layer.Distinct.overlay`).

A *pile* is a list of definitions, the lowest first.  `Layer.ofPile` lays a whole pile down, one
definition after another.  What comes out is told in terms of the flat list of all sections and all
declarations of the pile: `Layer.map_name_ofPile` and `Layer.getLast?_sectionsNamed` for sections,
`Layer.map_fst_ofPile` and `Layer.declaration_ofPile` for variables, `Layer.description_ofPile` for
the description.
-/

namespace Docket

/-! ## The last attribute that is set -/

/-- What the last of several things that set an attribute sets it to. -/
def lastSet {α β : Type} (field : α → Option β) (xs : List α) : Option β :=
  (xs.filterMap field).getLast?

lemma lastSet_append {α β : Type} (field : α → Option β) (xs ys : List α) :
    lastSet field (xs ++ ys) = (lastSet field ys).or (lastSet field xs) := by
  rw [lastSet, lastSet, lastSet, List.filterMap_append, List.getLast?_append]

lemma lastSet_concat {α β : Type} (field : α → Option β) (xs : List α) (x : α) :
    lastSet field (xs ++ [x]) = (field x).or (lastSet field xs) := by
  rw [lastSet_append]
  cases hx : field x <;> simp [lastSet, hx]

/-- An attribute that combination takes from the upper entry, if it is set there, is in the end the
last one set. -/
lemma bind_foldl_accumulate {α β : Type} {combine : α → α → α} {field : α → Option β}
    (h : ∀ a b, field (combine a b) = (field b).or (field a)) (xs : List α) :
    (xs.foldl (Keyed.accumulate combine) none).bind field = lastSet field xs := by
  induction xs using List.reverseRecOn with
  | nil => rfl
  | append_singleton xs x ih =>
      rw [List.foldl_append, List.foldl_cons, List.foldl_nil, lastSet_concat, ← ih]
      cases xs.foldl (Keyed.accumulate combine) none with
      | none => simp [Keyed.accumulate]
      | some a => simp [Keyed.accumulate, h]

namespace Layer

/-! ## Sections and schemas as keyed entries -/

/-- The section that two sections of one name amount to. -/
def replaceBody (lower upper : Section) : Section := ⟨lower.name, upper.body⟩

/-- The entry that two declarations of one variable amount to. -/
def overlayEntry (lower upper : String × Declaration) : String × Declaration :=
  (lower.1, overlayDeclaration lower.2 upper.2)

lemma keepsKey_replaceBody : Keyed.KeepsKey Section.name replaceBody := fun _ _ h => h

lemma keepsKey_overlayEntry : Keyed.KeepsKey Prod.fst overlayEntry := fun _ _ h => h

lemma replaceBody_assoc (a b c : Section) :
    replaceBody (replaceBody a b) c = replaceBody a (replaceBody b c) := rfl

lemma overlayEntry_assoc (a b c : String × Declaration) :
    overlayEntry (overlayEntry a b) c = overlayEntry a (overlayEntry b c) := by
  simp only [overlayEntry, overlayDeclaration, Option.or_assoc]

lemma overlaySection_eq (sections : List Section) (s : Section) :
    overlaySection sections s = Keyed.upsert Section.name replaceBody sections s := by
  induction sections with
  | nil => rfl
  | cons t rest ih => rw [overlaySection, Keyed.upsert, ih, replaceBody]

lemma overlayVariable_eq (schema : Schema) (v : String × Declaration) :
    overlayVariable schema v.1 v.2 = Keyed.upsert Prod.fst overlayEntry schema v := by
  induction schema with
  | nil => rfl
  | cons below rest ih => rw [overlayVariable, Keyed.upsert, ih, overlayEntry]

lemma overlaySections_eq (lower upper : List Section) :
    overlaySections lower upper = Keyed.overlay Section.name replaceBody lower upper := by
  rw [overlaySections, Keyed.overlay, funext₂ overlaySection_eq]

lemma overlaySchema_eq (lower upper : Schema) :
    overlaySchema lower upper = Keyed.overlay Prod.fst overlayEntry lower upper := by
  rw [overlaySchema, Keyed.overlay]
  exact congrArg (fun f => upper.foldl f lower) (funext₂ overlayVariable_eq)

/-! ## Associativity -/

/-- A layer whose sections have different names, and whose schema has each name once. -/
structure Distinct (l : Layer) : Prop where
  sections : (l.sections.map (·.name)).Nodup
  schema : (l.schema.map (·.1)).Nodup

lemma distinct_empty : Distinct {} := ⟨List.nodup_nil, List.nodup_nil⟩

lemma Distinct.overlay {l : Layer} (h : l.Distinct) (upper : Layer) : (l.overlay upper).Distinct where
  sections := by
    rw [Layer.overlay, overlaySections_eq]
    exact Keyed.nodup_map_key_overlay keepsKey_replaceBody h.sections _
  schema := by
    rw [Layer.overlay, overlaySchema_eq]
    exact Keyed.nodup_map_key_overlay keepsKey_overlayEntry h.schema _

/-- Overlaying is associative if the layer in the middle has each name once. -/
lemma overlay_assoc (l : Layer) {middle : Layer} (hm : middle.Distinct) (upper : Layer) :
    l.overlay (middle.overlay upper) = (l.overlay middle).overlay upper := by
  simp only [overlay, overlaySections_eq, overlaySchema_eq, Option.or_assoc, mk.injEq, true_and]
  exact
    ⟨Keyed.overlay_overlay keepsKey_replaceBody replaceBody_assoc _ hm.sections _,
      Keyed.overlay_overlay keepsKey_overlayEntry overlayEntry_assoc _ hm.schema _⟩

@[simp] lemma overlay_empty (l : Layer) : l.overlay {} = l := by
  simp [overlay, overlaySections, overlaySchema]

/-! ## Piles -/

/-- Lays a pile of definitions over a layer, one after another. -/
def overlayPile (l : Layer) (pile : List Definition) : Layer :=
  pile.foldl (fun l d => l.overlay d.layer) l

/-- What a pile of definitions amounts to. -/
def ofPile (pile : List Definition) : Layer := overlayPile {} pile

lemma overlayPile_append (l : Layer) (xs ys : List Definition) :
    l.overlayPile (xs ++ ys) = (l.overlayPile xs).overlayPile ys := List.foldl_append

lemma Distinct.overlayPile {l : Layer} (h : l.Distinct) (pile : List Definition) :
    (l.overlayPile pile).Distinct := by
  induction pile generalizing l with
  | nil => exact h
  | cons d pile ih => exact ih (h.overlay d.layer)

lemma distinct_ofPile (pile : List Definition) : (ofPile pile).Distinct :=
  distinct_empty.overlayPile pile

/-- A pile may be laid down on its own first. -/
lemma overlay_ofPile (l : Layer) (pile : List Definition) :
    l.overlay (ofPile pile) = l.overlayPile pile := by
  induction pile using List.reverseRecOn with
  | nil => exact overlay_empty l
  | append_singleton pile d ih =>
      rw [ofPile, overlayPile_append, overlayPile_append, ← ih]
      exact overlay_assoc l (distinct_ofPile pile) d.layer

/-! ## What a pile amounts to -/

lemma sections_overlayPile (l : Layer) (pile : List Definition) :
    (l.overlayPile pile).sections =
      Keyed.overlay Section.name replaceBody l.sections (pile.flatMap (·.sections)) := by
  induction pile generalizing l with
  | nil => rfl
  | cons d pile ih =>
      rw [List.flatMap_cons, Keyed.overlay_append, ← overlaySections_eq l.sections d.sections]
      exact ih (l.overlay d.layer)

lemma schema_overlayPile (l : Layer) (pile : List Definition) :
    (l.overlayPile pile).schema =
      Keyed.overlay Prod.fst overlayEntry l.schema (pile.flatMap (·.schema)) := by
  induction pile generalizing l with
  | nil => rfl
  | cons d pile ih =>
      rw [List.flatMap_cons, Keyed.overlay_append, ← overlaySchema_eq l.schema d.schema]
      exact ih (l.overlay d.layer)

/-- The sections of a name in a pile, the lowest first. -/
def sectionsNamed (name : String) (pile : List Definition) : List Section :=
  (pile.flatMap (·.sections)).filter fun s => s.name = name

/-- The declarations of a variable in a pile, the lowest first. -/
def declarationsOf (name : String) (pile : List Definition) : List (String × Declaration) :=
  (pile.flatMap (·.schema)).filter fun v => v.1 = name

lemma map_name_ofPile (pile : List Definition) :
    (ofPile pile).sections.map (·.name) =
      ((pile.flatMap (·.sections)).map (·.name)).eraseDups := by
  rw [ofPile, sections_overlayPile]
  exact Keyed.map_key_overlay_nil keepsKey_replaceBody _

lemma map_fst_ofPile (pile : List Definition) :
    (ofPile pile).schema.map (·.1) = ((pile.flatMap (·.schema)).map (·.1)).eraseDups := by
  rw [ofPile, schema_overlayPile]
  exact Keyed.map_key_overlay_nil keepsKey_overlayEntry _

/-- Of sections that all have one name, the last one replaces all others. -/
lemma foldl_accumulate_replaceBody {name : String} {xs : List Section}
    (h : ∀ s ∈ xs, s.name = name) :
    xs.foldl (Keyed.accumulate replaceBody) none = xs.getLast? := by
  induction xs using List.reverseRecOn with
  | nil => rfl
  | append_singleton xs x ih =>
      have hx : x.name = name := h x (by simp)
      rw [List.foldl_append, ih fun s hs => h s (by simp [hs]), List.getLast?_concat]
      cases hlast : xs.getLast? with
      | none => rfl
      | some t =>
          have ht : t.name = name := h t (by simp [List.mem_of_getLast? hlast])
          simp [Keyed.accumulate, replaceBody, ht, ← hx]

lemma getLast?_sectionsNamed {pile : List Definition} {s : Section}
    (hs : s ∈ (ofPile pile).sections) : (sectionsNamed s.name pile).getLast? = some s := by
  have hfind := Keyed.find?_key_of_mem (distinct_ofPile pile).sections hs
  rw [ofPile, sections_overlayPile] at hfind
  have hnamed : ∀ t ∈ sectionsNamed s.name pile, t.name = s.name := fun t ht => by
    simpa using (List.mem_filter.mp ht).2
  rw [← hfind, ← foldl_accumulate_replaceBody hnamed]
  exact (Keyed.find?_overlay_nil keepsKey_replaceBody _ s.name).symm

/-- Every attribute that upper declarations override is the last one set in the pile. -/
lemma declaration_ofPile {β : Type} {field : Declaration → Option β}
    (h : ∀ a b, field (overlayDeclaration a b) = (field b).or (field a))
    {pile : List Definition} {v : String × Declaration} (hv : v ∈ (ofPile pile).schema) :
    field v.2 = lastSet (fun w => field w.2) (declarationsOf v.1 pile) := by
  have hfind := Keyed.find?_key_of_mem (distinct_ofPile pile).schema hv
  rw [ofPile, schema_overlayPile] at hfind
  have hfold := (Keyed.find?_overlay_nil keepsKey_overlayEntry
    (pile.flatMap (·.schema)) v.1).symm.trans hfind
  have hentry : ∀ a b : String × Declaration,
      field (overlayEntry a b).2 = (field b.2).or (field a.2) := fun a b => h a.2 b.2
  rw [← bind_foldl_accumulate hentry, declarationsOf, hfold]
  rfl

lemma description_ofPile (pile : List Definition) :
    (ofPile pile).description = lastSet (·.description) pile := by
  induction pile using List.reverseRecOn with
  | nil => rfl
  | append_singleton pile d ih =>
      rw [lastSet_concat, ← ih, ofPile, overlayPile_append]
      rfl

end Layer

end Docket
