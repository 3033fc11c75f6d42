import Docket.Proofs.Generation.Basic
import Docket.Proofs.Inheritance.Expansion
import Docket.Proofs.Rendering.Errors

/-!
# What a generation fails with

Resolving, merging, reading bodies, checking required variables and rendering have causes of failure
of their own, and all of them are among those that concern a single generation
(`Error.isRender`): a cycle or a missing fragment for a merge, tags that mean nothing or do not pair
up for a body, values of the wrong type and missing values for the rendering.  So whatever a store
generates, it fails with one of these (`Store.isRender_of_generated`).
-/

namespace Docket

variable {e : Error}

/-! ## Reading bodies -/

lemma Path.isRender_of_parse {raw : String} (h : parse raw = .error e) : e.isRender := by
  rw [parse] at h
  split at h <;> cases h
  rfl

namespace Template

lemma isRender_of_readFilter {expression raw : List Char}
    (h : readFilter expression raw = .error e) : e.isRender := by
  rw [readFilter] at h
  split at h
  · cases h
    rfl
  · split at h
    · cases h
      rfl
    · split at h
      · cases h
        rfl
      · split at h <;> cases h
        rfl

lemma isRender_of_readFilters {expression : List Char} {filters : List (List Char)}
    (h : readFilters expression filters = .error e) : e.isRender := by
  induction filters with
  | nil => cases h
  | cons raw rest ih =>
      rw [readFilters] at h
      split at h
      · rename_i hfilter
        cases h
        exact isRender_of_readFilter hfilter
      · split at h
        · rename_i hrest
          cases h
          exact ih hrest
        · cases h

lemma isRender_of_readExpression {inner : List Char} (h : readExpression inner = .error e) :
    e.isRender := by
  rw [readExpression] at h
  split at h
  · cases h
    rfl
  · split at h
    · rename_i hpath
      cases h
      exact Path.isRender_of_parse hpath
    · split at h
      · rename_i hfilters
        cases h
        exact isRender_of_readFilters hfilters
      · cases h

lemma isRender_of_readDirective {invalid : Error} (hinvalid : invalid.isRender)
    {directive : List Char} (h : readDirective invalid directive = .error e) : e.isRender := by
  simp only [readDirective] at h
  split at h
  · split at h
    · cases h
      exact hinvalid
    · split at h
      · rename_i hpath
        cases h
        exact Path.isRender_of_parse hpath
      · cases h
  · split at h <;> cases h
    exact hinvalid

lemma isRender_of_readTag {inner : List Char} (h : Tag.read inner = .error e) : e.isRender := by
  rw [Tag.read] at h
  split at h
  · cases h
    rfl
  · exact isRender_of_readDirective rfl h
  · split at h <;> cases h
    rfl
  · split at h
    · cases h
    · split at h
      · rename_i hexpression
        cases h
        exact isRender_of_readExpression hexpression
      · cases h

/-- A tag that means something fails to fit only because tags do not pair up. -/
lemma isRender_of_tag {b : Builder} {t : Tag} (h : b.tag t = .error e) : e.isRender := by
  cases t with
  | expression => cases h
  | opening => cases h
  | otherwise =>
      rw [Builder.tag, Builder.turn] at h
      split at h
      · cases h
        rfl
      · split at h <;> cases h
        rfl
  | closing kind =>
      rw [Builder.tag, Builder.close] at h
      split at h
      · cases h
        rfl
      · split at h <;> cases h
        rfl

lemma isRender_of_pieces {pieces : List Piece} {b : Builder} (h : b.pieces pieces = .error e) :
    e.isRender := by
  induction pieces generalizing b with
  | nil => cases h
  | cons piece rest ih =>
      cases piece with
      | text cs => exact ih h
      | tag inner =>
          rw [Builder.pieces] at h
          split at h
          · rename_i hread
            cases h
            exact isRender_of_readTag hread
          · split at h
            · rename_i htag
              cases h
              exact isRender_of_tag htag
            · exact ih h

/-- A body that cannot be read fails for its tags. -/
lemma isRender_of_parse {body : String} (h : parse body = .error e) : e.isRender := by
  rw [parse] at h
  split at h
  · rename_i hpieces
    cases h
    exact isRender_of_pieces hpieces
  · split at h
    · cases h
      rfl
    · rw [Builder.finish] at h
      split at h <;> cases h
      rfl

lemma isRender_of_parseSections {sections : List Section} (h : parseSections sections = .error e) :
    e.isRender := by
  induction sections with
  | nil => cases h
  | cons s rest ih =>
      rw [parseSections] at h
      split at h
      · rename_i hparse
        cases h
        exact isRender_of_parse hparse
      · split at h
        · rename_i hrest
          cases h
          exact ih hrest
        · cases h

/-- Sections fail for their tags or for their data. -/
lemma isRender_of_renderSections {separator : String} {sections : List Section} {b : Bindings}
    (h : renderSections separator sections b = .error e) : e.isRender := by
  cases hparsed : parseSections sections with
  | error e' =>
      simp only [renderSections, hparsed] at h
      cases h
      exact isRender_of_parseSections hparsed
  | ok parsed =>
      rcases renderSections_error b hparsed h with ⟨_, _, _, rfl⟩ | ⟨_, _, rfl⟩ <;> rfl

end Template

/-! ## Resolving -/

/-- A merge fails for a cycle or a missing fragment. -/
lemma Definition.isRender_of_merge {fragments : Fragments} {d : Definition}
    (h : d.merge fragments = .error e) : e.isRender := by
  rw [merge] at h
  split at h
  · rename_i hgather
    cases h
    obtain ⟨_, _, _, ⟨_, rfl⟩ | ⟨_, rfl⟩⟩ := Inheritance.gather_rejects hgather <;> rfl
  · cases h

/-- **What a store generates fails only for its templates and its data.** -/
lemma Store.isRender_of_generated {s : Store} {separator : String} {request : Request}
    {context : Context} {f : Failure}
    (h : s.generated (sectionRenderer separator) request context = .error f) :
    f.cause.isRender := by
  rw [generated] at h
  split at h
  · rename_i hresolve
    cases h
    obtain ⟨_, _, _, hmerge⟩ := resolve_error hresolve
    exact Definition.isRender_of_merge hmerge
  · rename_i resolution _
    cases hrender : Template.renderSections separator resolution.template.sections
        (Bindings.bind context.value resolution.template.schema request.strictness) with
    | error e =>
        simp only [sectionRenderer, hrender] at h
        cases h
        exact Template.isRender_of_renderSections hrender
    | ok d => simp [sectionRenderer, hrender] at h

end Docket
