import Docket.Proofs.Rendering.Sections
import Docket.Proofs.Rendering.Strictness
import Mathlib.Data.List.Duplicate

/-!
# Repeated warnings

Warnings come from two sides: from the required variables without value, before the sections are
rendered, and from the references without value while they are rendered.  Rendering looks at what has
been noted already, so whatever repeats has been repeated before (`duplicate_withWarnings_iff`).

The check for required variables does not look: it gives one warning for each declared name, and a
schema may declare one path under several names, `items.0` in a fragment and `items[0]` in the
template that is based on it.  `warnings_nodup_iff` says that this is the only way to a repeated
warning, and `warnings_repeat_respelled` shows it.
-/

namespace Docket.Template

open Bindings (bind canonicalName)

/-! ## Warnings of sections -/

lemma duplicate_concat_iff {ws : List String} {v w : String} (hv : v ∉ ws) :
    List.Duplicate w (ws ++ [v]) ↔ List.Duplicate w ws := by
  have hnone : ws.count v = 0 := List.count_eq_zero.mpr hv
  rw [List.duplicate_iff_two_le_count, List.duplicate_iff_two_le_count, List.count_append,
    List.count_singleton]
  by_cases hw : v = w
  · subst hw
    simp [hnone]
  · simp [hw]

/-- What repeats has been repeated before. -/
lemma duplicate_withWarnings_iff {ws more : List String} {w : String} :
    List.Duplicate w (withWarnings ws more) ↔ List.Duplicate w ws := by
  induction more using List.reverseRecOn with
  | nil => rw [withWarnings_nil]
  | append_singleton more v ih =>
      rw [withWarnings_concat]
      split
      · exact ih
      · rename_i hnew
        rw [duplicate_concat_iff hnew, ih]

lemma nodup_withWarnings_iff {ws more : List String} : (withWarnings ws more).Nodup ↔ ws.Nodup := by
  simp only [List.nodup_iff_forall_not_duplicate, duplicate_withWarnings_iff]

/-- The warnings of a document are those about required variables, with those of its sections behind
them. -/
lemma exists_warnings {separator : String} {sections : List Section} {b : Bindings} {d : Document}
    (h : renderSections separator sections b = .ok d) :
    ∃ required own, b.requiredWarnings = .ok required ∧ d.warnings = withWarnings required own := by
  rw [renderSections] at h
  split at h
  · cases h
  · rename_i parsed _
    split at h
    · cases h
    · rename_i required hrequired
      have hnotice := renderParsed_related takesNoNotice_congruence (stepsRelated_takesNoNotice b)
        parsed required
      split at h
      · cases h
      · rename_i rendered ws hrender
        cases h
        rw [hrender] at hnotice
        exact ⟨required, _, hrequired, congrArg Outcome.warnings hnotice⟩

/-! ## Warnings about required variables -/

/-- The warning about a required variable without value. -/
def requiredWarning (name : String) : String := "Required variable '" ++ name ++ "' is missing"

lemma requiredWarning_injective : Function.Injective requiredWarning := fun _ _ h =>
  Names.unique (.inr h) (.inr rfl)

lemma requiredWarnings_lenient {b : Bindings} (hlenient : b.strictness = .lenient) :
    b.requiredWarnings = .ok (b.missingRequired.map requiredWarning) := by
  rw [Bindings.requiredWarnings, hlenient]
  rfl

/-- No path is missing twice unless two required variables have it. -/
lemma nodup_missingRequired_iff (context : Value) (schema : Schema) (strictness : Strictness) :
    (bind context schema strictness).missingRequired.Nodup ↔
      schema.Pairwise fun u v =>
        u.2.isRequired → v.2.isRequired → canonicalName u.1 = canonicalName v.1 →
          ∃ w, (bind context schema strictness).get? (canonicalName u.1) = some w := by
  have hdeclared : (bind context schema strictness).declared =
      schema.map fun d => (canonicalName d.1, d.2.isRequired) := rfl
  rw [Bindings.missingRequired, hdeclared, List.Nodup, List.pairwise_map, List.pairwise_filter,
    List.pairwise_map]
  refine List.Pairwise.iff fun u v => ?_
  simp only [Bool.and_eq_true, Option.isNone_iff_eq_none, ← Option.ne_none_iff_exists']
  grind

/-! ## Documents -/

/-- **When a document repeats a warning.**  Its warnings are pairwise distinct exactly if no two of the
required variables have the same path, a path with a value aside.  And whatever warning repeats, it is
one about a required variable without value. -/
theorem warnings_nodup_iff (separator : String) (template : MergedTemplate) (context : Value)
    {d : Document} (h : documentOf separator template context .lenient = .ok d) :
    (d.warnings.Nodup ↔
      template.schema.Pairwise fun u v =>
        u.2.isRequired → v.2.isRequired → canonicalName u.1 = canonicalName v.1 →
          ∃ w, (bind context template.schema .lenient).get? (canonicalName u.1) = some w) ∧
    ∀ w, List.Duplicate w d.warnings →
      ∃ name ∈ (bind context template.schema .lenient).missingRequired, w = requiredWarning name := by
  obtain ⟨required, own, hrequired, hwarnings⟩ := exists_warnings h
  rw [requiredWarnings_lenient rfl, Except.ok.injEq] at hrequired
  subst hrequired
  rw [hwarnings]
  refine ⟨?_, fun w hw => ?_⟩
  · rw [nodup_withWarnings_iff, List.nodup_map_iff requiredWarning_injective,
      nodup_missingRequired_iff]
  · obtain ⟨name, hname, rfl⟩ := List.mem_map.mp (duplicate_withWarnings_iff.mp hw).mem
    exact ⟨name, hname, rfl⟩

/-- A section body that refers to a title. -/
def titleText : String := "Title \x7b\x7b title \x7d\x7d"

lemma parse_titleText :
    parse titleText = .ok [.text "Title ", .expr ⟨⟨.root, [.key "title"]⟩, []⟩] := by rfl

/-- A fragment that requires an item and refers to the title. -/
def itemFragments : Fragments :=
  [("page",
    { identity := .fragment "page", version := "1", description := none,
      sections := [⟨"Head", titleText⟩], schema := [("items.0", { required := some true })],
      bases := [], source := "page.yaml" })]

/-- A template that is based on it, requires an item as well and refers to the same title. -/
def itemTemplate (name : String) : Definition :=
  { identity := .template ⟨"jira", "bug", "rust"⟩, version := "1", description := none,
    sections := [⟨"Body", titleText⟩], schema := [(name, { required := some true })],
    bases := ["page"], source := "bug.yaml" }

/-- What the template amounts to. -/
def itemMerged (name : String) : MergedTemplate :=
  { id := "jira/bug/rust@1", key := some ⟨"jira", "bug", "rust"⟩, version := "1",
    description := none, sections := [⟨"Head", titleText⟩, ⟨"Body", titleText⟩],
    schema := [("items.0", { required := some true }), (name, { required := some true })],
    lineage := ["page"], source := "bug.yaml" }

/-- What it is rendered to without data, but for the warnings. -/
def itemDocument (warnings : List String) : Document :=
  { text := "Title \nTitle ", sections := [⟨"Head", "Title "⟩, ⟨"Body", "Title "⟩],
    warnings := warnings }

lemma parseSections_itemMerged (name : String) :
    parseSections (itemMerged name).sections =
      .ok [⟨"Head", [.text "Title ", .expr ⟨⟨.root, [.key "title"]⟩, []⟩]⟩,
        ⟨"Body", [.text "Title ", .expr ⟨⟨.root, [.key "title"]⟩, []⟩]⟩] := by
  simp only [itemMerged, parseSections, parse_titleText]

/-- Two items are missing and a title, to which two sections refer. -/
theorem warnings_nodup_iff_items :
    let d := itemDocument ["Required variable 'items[0]' is missing",
      "Required variable 'items[1]' is missing", "Unresolved variable 'title' rendered as empty"]
    (itemTemplate "items[1]").merge itemFragments = .ok (itemMerged "items[1]") ∧
      documentOf "\n" (itemMerged "items[1]") (.map []) .lenient = .ok d ∧ d.warnings.Nodup := by
  intro d
  have hmerge : (itemTemplate "items[1]").merge itemFragments = .ok (itemMerged "items[1]") := by
    cbv
  have hrender : documentOf "\n" (itemMerged "items[1]") (.map []) .lenient = .ok d := by
    rw [documentOf, renderSections, parseSections_itemMerged]
    rfl
  have hnames : canonicalName "items.0" ≠ canonicalName "items[1]" := by decide +kernel
  refine ⟨hmerge, hrender, (warnings_nodup_iff _ _ _ hrender).1.mpr ?_⟩
  exact List.pairwise_pair.mpr fun _ _ hsame => absurd hsame hnames

/-- A fragment and a template require the same item and spell it in two ways: its warning is given
twice. -/
theorem warnings_repeat_respelled :
    let d := itemDocument ["Required variable 'items[0]' is missing",
      "Required variable 'items[0]' is missing", "Unresolved variable 'title' rendered as empty"]
    (itemTemplate "items[0]").merge itemFragments = .ok (itemMerged "items[0]") ∧
      documentOf "\n" (itemMerged "items[0]") (.map []) .lenient = .ok d ∧
      ¬ d.warnings.Nodup := by
  intro d
  have hmerge : (itemTemplate "items[0]").merge itemFragments = .ok (itemMerged "items[0]") := by
    cbv
  have hrender : documentOf "\n" (itemMerged "items[0]") (.map []) .lenient = .ok d := by
    rw [documentOf, renderSections, parseSections_itemMerged]
    rfl
  exact ⟨hmerge, hrender, by simp [d, itemDocument]⟩

end Docket.Template
