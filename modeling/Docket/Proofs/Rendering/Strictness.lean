import Docket.Inheritance.Merge
import Docket.Proofs.Rendering.Relation

/-!
# Strict rendering is lenient rendering without missing data

Under strictness the first reference without value is an error; otherwise it is a warning and
rendering goes on.  Up to the first warning both run alike, and from there on the strict one has
failed: `AgreesUntilWarning` says so of two renderings, and it is a congruence, so that it carries
over to whole documents.

`strict_iff_lenient_without_warnings` compares the two results: strict rendering succeeds exactly
where lenient rendering succeeds without warnings, with the same document; where lenient rendering
warns, strict rendering fails for what the first warning names; and where lenient rendering fails,
strict rendering fails as well, the same way or earlier.
-/

namespace Docket.Template

open Rendering

/-! ## Warnings -/

/-- A warning names a path if it says that the path has no value. -/
def Names (warning path : String) : Prop :=
  warning = "Unresolved variable '" ++ path ++ "' rendered as empty" ∨
    warning = "Required variable '" ++ path ++ "' is missing"

/-- A warning names one path at most. -/
lemma Names.unique {warning p q : String} (hp : Names warning p) (hq : Names warning q) :
    q = p := by
  rcases hp with rfl | rfl <;> rcases hq with h | h
  · simpa using h.symm
  · simp [String.ext_iff, String.toList_append] at h
  · simp [String.ext_iff, String.toList_append] at h
  · simpa using h.symm

/-- A rendering that only adds to the warnings there are. -/
def KeepsWarnings {α : Type} (r : Rendering α) : Prop := ∀ ws, ws <+: (r ws).warnings

lemma keepsWarnings_lift {α : Type} (r : Except Error α) : KeepsWarnings (lift r) :=
  fun ws => List.prefix_refl ws

lemma keepsWarnings_warn (w : String) : KeepsWarnings (warn w) := by
  intro ws
  simp only [warn]
  split
  · exact List.prefix_refl ws
  · exact List.prefix_append ws [w]

lemma KeepsWarnings.andThen {α β : Type} {r : Rendering α} {f : α → Rendering β}
    (hr : KeepsWarnings r) (hf : ∀ a, KeepsWarnings (f a)) : KeepsWarnings (r.andThen f) := by
  intro ws
  have hws := hr ws
  unfold Rendering.andThen
  split
  · rename_i a ws' h
    rw [h] at hws
    exact hws.trans (hf a ws')
  · rename_i e ws' h
    rw [h] at hws
    exact hws

/-! ## Agreeing until the first warning -/

/-- Started without warnings, two renderings end alike and without warnings, or the first one warns
and the second fails for the path that the first warning names. -/
structure AgreesUntilWarning {α : Type} (lenient strict : Rendering α) : Prop where
  keeps : KeepsWarnings lenient
  agrees : (∃ r, lenient [] = ⟨r, []⟩ ∧ strict [] = ⟨r, []⟩) ∨
    ∃ path w ws, Names w path ∧ (lenient []).warnings = w :: ws ∧
      (strict []).result = .error (.unresolved path)

lemma agreesUntilWarning_lift {α : Type} (r : Except Error α) :
    AgreesUntilWarning (lift r) (lift r) :=
  ⟨keepsWarnings_lift r, .inl ⟨r, rfl, rfl⟩⟩

lemma AgreesUntilWarning.andThen {α β : Type} {r s : Rendering α} {f g : α → Rendering β}
    (h : AgreesUntilWarning r s) (hfg : ∀ a, AgreesUntilWarning (f a) (g a)) :
    AgreesUntilWarning (r.andThen f) (s.andThen g) := by
  refine ⟨h.keeps.andThen fun a => (hfg a).keeps, ?_⟩
  rcases h.agrees with ⟨result, hr, hs⟩ | ⟨path, w, ws, hpath, hr, hs⟩
  · cases result with
    | error e =>
        exact .inl ⟨.error e, andThen_of_error hr, andThen_of_error hs⟩
    | ok a =>
        rw [andThen_of_ok hr, andThen_of_ok hs]
        exact (hfg a).agrees
  · -- the strict rendering has failed, and what follows keeps the first warning of the lenient one
    refine .inr ⟨path, w, ?_⟩
    have hfail : (s.andThen g []).result = .error (.unresolved path) := by
      rcases hstrict : s [] with ⟨result, ws'⟩
      rw [hstrict] at hs
      obtain rfl : result = .error (.unresolved path) := hs
      rw [andThen_of_error hstrict]
    have hkept : (r []).warnings <+: (r.andThen f []).warnings := by
      rcases hlenient : r [] with ⟨result, ws'⟩
      cases result with
      | error e =>
          have hsame : (r.andThen f []).warnings = ws' := by rw [andThen_of_error hlenient]
          exact hsame ▸ List.prefix_refl ws'
      | ok a =>
          rw [andThen_of_ok hlenient]
          exact (hfg a).keeps ws'
    rw [hr] at hkept
    obtain ⟨more, hmore⟩ := hkept
    exact ⟨ws ++ more, hpath, by rw [← hmore, List.cons_append], hfail⟩

lemma agreesUntilWarning_congruence : Congruence @AgreesUntilWarning where
  done a := agreesUntilWarning_lift (.ok a)
  andThen := AgreesUntilWarning.andThen

/-! ## The two ways to treat missing data -/

/-- The same bindings under another strictness. -/
def withStrictness (b : Bindings) (strictness : Strictness) : Bindings :=
  { b with strictness := strictness }

section

variable (b : Bindings)

lemma resolve_withStrictness (strictness : Strictness) (frames : List Frame) (p : Path) :
    resolve (withStrictness b strictness) frames p = resolve b frames p := rfl

lemma missing_agrees (p : Path) :
    AgreesUntilWarning (missing (withStrictness b .lenient) p)
      (missing (withStrictness b .strict) p) := by
  by_cases h : b.mayBeAbsent p = true
  · have hdone : ∀ strictness, missing (withStrictness b strictness) p = done () := by
      intro strictness
      have hnotice : (withStrictness b strictness).noticeOf p = .ok none := if_pos h
      rw [missing, hnotice]
      rfl
    rw [hdone, hdone]
    exact agreesUntilWarning_lift (.ok ())
  · have hwarn : missing (withStrictness b .lenient) p =
        warn ("Unresolved variable '" ++ p.display ++ "' rendered as empty") := by
      have hnotice : (withStrictness b .lenient).noticeOf p =
          .ok (some ("Unresolved variable '" ++ p.display ++ "' rendered as empty")) := if_neg h
      rw [missing, hnotice]
      rfl
    have hfail : missing (withStrictness b .strict) p = fail (.unresolved p.display) := by
      have hnotice : (withStrictness b .strict).noticeOf p = .error (.unresolved p.display) :=
        if_neg h
      rw [missing, hnotice]
      rfl
    rw [hwarn, hfail]
    exact ⟨keepsWarnings_warn _, .inr ⟨p.display, _, [], .inl rfl, rfl, rfl⟩⟩

lemma stepsRelated_strictness :
    StepsRelated @AgreesUntilWarning (withStrictness b .lenient) (withStrictness b .strict) := by
  refine (stepsRelatedOn_of_missing agreesUntilWarning_congruence agreesUntilWarning_lift
    (fun frames p _ => ?_) fun p _ => missing_agrees b p).everywhere
  rw [resolve_withStrictness, resolve_withStrictness]

end

/-! ## Documents -/

/-- A rendering that starts with a warning ends with it. -/
lemma KeepsWarnings.eq_cons {α : Type} {r : Rendering α} (hr : KeepsWarnings r) {w : String}
    {ws ws' : List String} {result : Except Error α} (h : r (w :: ws) = ⟨result, ws'⟩) :
    ∃ more, ws' = w :: more := by
  have hkept := hr (w :: ws)
  rw [h] at hkept
  obtain ⟨more, rfl⟩ := hkept
  exact ⟨ws ++ more, rfl⟩

lemma requiredWarnings_of_nil {b : Bindings} (h : b.missingRequired = [])
    (strictness : Strictness) : (withStrictness b strictness).requiredWarnings = .ok [] := by
  have hmissing : (withStrictness b strictness).missingRequired = [] := h
  cases strictness with
  | lenient => rw [Bindings.requiredWarnings, hmissing]; rfl
  | strict => rw [Bindings.requiredWarnings, hmissing]; rfl

lemma requiredWarnings_lenient_of_cons {b : Bindings} {name : String} {names : List String}
    (h : b.missingRequired = name :: names) :
    ∃ ws, (withStrictness b .lenient).requiredWarnings =
      .ok (("Required variable '" ++ name ++ "' is missing") :: ws) := by
  have hmissing : (withStrictness b .lenient).missingRequired = name :: names := h
  rw [Bindings.requiredWarnings, hmissing]
  exact ⟨_, rfl⟩

lemma requiredWarnings_strict_of_cons {b : Bindings} {name : String} {names : List String}
    (h : b.missingRequired = name :: names) :
    (withStrictness b .strict).requiredWarnings = .error (.unresolved name) := by
  have hmissing : (withStrictness b .strict).missingRequired = name :: names := h
  rw [Bindings.requiredWarnings, hmissing]
  rfl

/-- The two ways in which lenient and strict rendering of sections can end. -/
lemma renderSections_agrees (separator : String) (sections : List Section) (b : Bindings) :
    (∃ r, renderSections separator sections (withStrictness b .lenient) = r ∧
      renderSections separator sections (withStrictness b .strict) = r ∧
      ∀ d, r = .ok d → d.warnings = []) ∨
    ∃ path, renderSections separator sections (withStrictness b .strict) =
        .error (.unresolved path) ∧
      ∀ d, renderSections separator sections (withStrictness b .lenient) = .ok d →
        ∃ w ws, Names w path ∧ d.warnings = w :: ws := by
  simp only [renderSections]
  cases parseSections sections with
  | error e => exact .inl ⟨_, rfl, rfl, nofun⟩
  | ok parsed =>
      have hrelated := renderParsed_related agreesUntilWarning_congruence
        (stepsRelated_strictness b) parsed
      cases hmissing : b.missingRequired with
      | nil =>
          simp only [requiredWarnings_of_nil hmissing]
          rcases hrelated.agrees with ⟨r, hl, hs⟩ | ⟨path, w, ws, hpath, hl, hs⟩
          · refine .inl ⟨_, rfl, by rw [hl, hs], fun d hd => ?_⟩
            rw [hl] at hd
            cases r with
            | error e => cases hd
            | ok rendered => cases hd; rfl
          · refine .inr ⟨path, ?_, fun d hd => ⟨w, ws, hpath, ?_⟩⟩
            · rcases hstrict : renderParsed (withStrictness b .strict) parsed [] with ⟨result, ws'⟩
              rw [hstrict] at hs
              obtain rfl : result = .error (.unresolved path) := hs
              rfl
            · rcases hlenient : renderParsed (withStrictness b .lenient) parsed [] with ⟨result, ws'⟩
              rw [hlenient] at hd hl
              cases result with
              | error e => cases hd
              | ok rendered => cases hd; exact hl
      | cons name names =>
          obtain ⟨ws, hrequired⟩ := requiredWarnings_lenient_of_cons hmissing
          simp only [hrequired, requiredWarnings_strict_of_cons hmissing]
          refine .inr ⟨name, rfl, fun d hd => ?_⟩
          rcases hlenient : renderParsed (withStrictness b .lenient) parsed
            (("Required variable '" ++ name ++ "' is missing") :: ws) with ⟨result, ws'⟩
          obtain ⟨more, hmore⟩ := hrelated.keeps.eq_cons hlenient
          rw [hlenient] at hd
          cases result with
          | error e => cases hd
          | ok rendered => cases hd; exact ⟨_, more, .inr rfl, hmore⟩

/-- The document of a template for a context. -/
def documentOf (separator : String) (template : MergedTemplate) (context : Value)
    (strictness : Strictness) : Except Error Document :=
  renderSections separator template.sections (Bindings.bind context template.schema strictness)

/-- **Strict rendering is lenient rendering without missing data.** -/
theorem strict_iff_lenient_without_warnings (separator : String) (template : MergedTemplate)
    (context : Value) :
    (∀ d, documentOf separator template context .strict = .ok d ↔
      documentOf separator template context .lenient = .ok d ∧ d.warnings = []) ∧
    (∀ d w ws, documentOf separator template context .lenient = .ok d → d.warnings = w :: ws →
      ∃ path, (∀ q, Names w q ↔ q = path) ∧
        documentOf separator template context .strict = .error (.unresolved path)) ∧
    (∀ e, documentOf separator template context .lenient = .error e →
      documentOf separator template context .strict = .error e ∨
        ∃ path, documentOf separator template context .strict = .error (.unresolved path)) := by
  have hbind : ∀ strictness, documentOf separator template context strictness =
      renderSections separator template.sections
        (withStrictness (Bindings.bind context template.schema .lenient) strictness) := fun _ => rfl
  simp only [hbind]
  rcases renderSections_agrees separator template.sections
    (Bindings.bind context template.schema .lenient) with ⟨r, hl, hs, hr⟩ | ⟨path, hs, hl⟩
  · rw [hl, hs]
    refine ⟨fun d => ⟨fun h => ⟨h, hr d h⟩, fun h => h.1⟩, fun d w ws h hw => ?_, fun e h => .inl h⟩
    rw [hr d h] at hw
    cases hw
  · rw [hs]
    refine ⟨fun d => ⟨nofun, fun ⟨h, hw⟩ => ?_⟩, fun d w ws h hw => ?_, fun e h => .inr ⟨path, rfl⟩⟩
    · obtain ⟨w, ws, -, hws⟩ := hl d h
      rw [hw] at hws
      cases hws
    · obtain ⟨w', ws', hpath, hws⟩ := hl d h
      rw [hw, List.cons.injEq] at hws
      rw [← hws.1] at hpath
      exact ⟨path, fun q => ⟨hpath.unique, fun h => h ▸ hpath⟩, rfl⟩

end Docket.Template
