import Docket.Inheritance.Merge
import Docket.Proofs.Inheritance.Keyed
import Docket.Proofs.Rendering.Errors
import Docket.Proofs.Rendering.Joining

/-!
# Documents and their sections

A document is put together from sections that are rendered one after another, with one list of
warnings.  The list does not matter for what a section comes to: whatever warnings there are, a
rendering has the same result and adds the warnings that it gives by itself, as far as they are new
(`TakesNoNotice`).  This is a congruence, so it holds of all nodes and bodies.

So a document can be told from its sections rendered each by itself (`alone`).
`renderSections_eq_join` says how: which error it ends with, if it does, and otherwise that it shows
what its sections come to.
-/

namespace Docket.Template

open Rendering

/-! ## Adding warnings -/

/-- Warnings with more of them behind: of these, what is new, where it first occurs. -/
def withWarnings (ws more : List String) : List String := ws ++ (more.removeAll ws).eraseDups

@[simp] lemma withWarnings_nil (ws : List String) : withWarnings ws [] = ws := by
  simp [withWarnings]

@[simp] lemma mem_withWarnings {ws more : List String} {w : String} :
    w ∈ withWarnings ws more ↔ w ∈ ws ∨ w ∈ more := by
  simp only [withWarnings, List.removeAll, List.mem_append, List.mem_eraseDups, List.mem_filter]
  by_cases h : w ∈ ws <;> simp [h]

/-- One more warning is added unless it is there. -/
lemma withWarnings_concat (ws more : List String) (w : String) :
    withWarnings ws (more ++ [w]) =
      if w ∈ withWarnings ws more then withWarnings ws more else withWarnings ws more ++ [w] := by
  by_cases hws : w ∈ ws
  · have hremove : (more ++ [w]).removeAll ws = more.removeAll ws := by simp [List.removeAll, hws]
    simp [withWarnings, hremove, hws]
  · have hremove : (more ++ [w]).removeAll ws = more.removeAll ws ++ [w] := by
      simp [List.removeAll, hws]
    have hmem : w ∈ more.removeAll ws ↔ w ∈ more := by simp [List.removeAll, hws]
    rw [withWarnings, hremove, Keyed.eraseDups_concat]
    by_cases hmore : w ∈ more <;> simp [withWarnings, hmem, hmore, hws]

/-- Warnings may be added in two parts. -/
lemma withWarnings_append (ws xs ys : List String) :
    withWarnings ws (xs ++ ys) = withWarnings (withWarnings ws xs) ys := by
  induction ys using List.reverseRecOn with
  | nil => simp
  | append_singleton ys y ih => rw [← List.append_assoc, withWarnings_concat, withWarnings_concat, ih]

/-- Warnings may be put together before they are added. -/
lemma withWarnings_withWarnings (ws xs ys : List String) :
    withWarnings ws (withWarnings xs ys) = withWarnings (withWarnings ws xs) ys := by
  induction ys using List.reverseRecOn with
  | nil => simp
  | append_singleton ys y ih =>
      rw [withWarnings_concat, withWarnings_concat, ← ih]
      by_cases h : y ∈ withWarnings xs ys
      · have hall : y ∈ withWarnings ws (withWarnings xs ys) := mem_withWarnings.mpr (.inr h)
        rw [if_pos h, if_pos hall]
      · rw [if_neg h, withWarnings_concat]

/-! ## Renderings that take no notice of warnings -/

/-- Whatever warnings there are, the result is the same, and the warnings that a rendering gives by
itself are added. -/
def TakesNoNotice {α : Type} (r : Rendering α) : Prop :=
  ∀ ws, r ws = ⟨(r []).result, withWarnings ws (r []).warnings⟩

lemma takesNoNotice_lift {α : Type} (r : Except Error α) : TakesNoNotice (lift r) := by
  intro ws
  simp only [lift, withWarnings_nil]

lemma takesNoNotice_warn (w : String) : TakesNoNotice (warn w) := by
  intro ws
  have hself : (warn w []).warnings = [] ++ [w] := rfl
  rw [hself, withWarnings_concat, withWarnings_nil]
  simp [warn]

lemma TakesNoNotice.andThen {α β : Type} {r : Rendering α} {f : α → Rendering β}
    (hr : TakesNoNotice r) (hf : ∀ a, TakesNoNotice (f a)) : TakesNoNotice (r.andThen f) := by
  intro ws
  rcases h : r [] with ⟨e | a, own⟩
  · have hws : r ws = ⟨.error e, withWarnings ws own⟩ := by rw [hr ws, h]
    rw [andThen_of_error hws, andThen_of_error h]
  · have hws : r ws = ⟨.ok a, withWarnings ws own⟩ := by rw [hr ws, h]
    rw [andThen_of_ok hws, andThen_of_ok h, hf a (withWarnings ws own), hf a own,
      withWarnings_withWarnings]

lemma takesNoNotice_congruence :
    Congruence fun {α : Type} (r _ : Rendering α) => TakesNoNotice r where
  done a := takesNoNotice_lift (.ok a)
  andThen := TakesNoNotice.andThen

variable (b : Bindings)

lemma missing_takesNoNotice (p : Path) : TakesNoNotice (missing b p) :=
  (takesNoNotice_lift _).andThen fun
    | some w => takesNoNotice_warn w
    | none => takesNoNotice_lift (.ok ())

lemma stepsRelated_takesNoNotice :
    StepsRelated (fun {α : Type} (r _ : Rendering α) => TakesNoNotice r) b b :=
  (stepsRelatedOn_of_missing takesNoNotice_congruence takesNoNotice_lift (fun _ _ _ => rfl)
    fun p _ => missing_takesNoNotice b p).everywhere

/-- **Bodies take no notice of the warnings there are.** -/
lemma renderBody_takesNoNotice (body : String) : TakesNoNotice (renderBody b body) := by
  refine (takesNoNotice_lift _).andThen fun nodes => ?_
  refine TakesNoNotice.andThen ?_ fun text => takesNoNotice_lift (.ok _)
  exact renderNodes_related takesNoNotice_congruence (stepsRelated_takesNoNotice b) [] nodes

/-! ## Sections by themselves -/

/-- What a section comes to by itself, with no warnings before it. -/
def alone (s : Section) : Outcome String := renderBody b s.body []

/-- What a document shows of a section: its text, if it is rendered and not blank. -/
def shown? (s : Section) : Option RenderedSection :=
  match (alone b s).result with
  | .ok text => if text.toList.all Text.isBlank then none else some ⟨s.name, text⟩
  | .error _ => none

/-- The error of the first of several computations that fails. -/
def firstError? {α β : Type} (f : α → Except Error β) : List α → Option Error
  | [] => none
  | x :: rest =>
    match f x with
    | .error e => some e
    | .ok _ => firstError? f rest

lemma firstError?_eq_none_iff {α β : Type} {f : α → Except Error β} {xs : List α} :
    firstError? f xs = none ↔ ∀ x ∈ xs, ∃ a, f x = .ok a := by
  induction xs with
  | nil => simp [firstError?]
  | cons x rest ih => cases h : f x <;> simp [firstError?, h, ih]

/-! ## All sections -/

variable {b} {sections : List Section}

lemma parseSections_of_firstError {e : Error}
    (h : firstError? (fun s => parse s.body) sections = some e) :
    parseSections sections = .error e := by
  induction sections with
  | nil => cases h
  | cons s rest ih =>
      rw [firstError?] at h
      rw [parseSections]
      cases hs : parse s.body with
      | error e' =>
          rw [hs] at h
          cases h
          rfl
      | ok nodes =>
          rw [hs] at h
          rw [ih h]

lemma exists_parseSections (h : firstError? (fun s => parse s.body) sections = none) :
    ∃ parsed, parseSections sections = .ok parsed := by
  refine parseSections_of_check fun s hs => ?_
  obtain ⟨nodes, hnodes⟩ := firstError?_eq_none_iff.mp h s hs
  rw [check, hnodes]

lemma parseSections_cons_ok {s : Section} {parsed : List ParsedSection}
    (h : parseSections (s :: sections) = .ok parsed) :
    ∃ nodes tail, parse s.body = .ok nodes ∧ parseSections sections = .ok tail ∧
      parsed = ⟨s.name, nodes⟩ :: tail := by
  rw [parseSections] at h
  split at h
  · cases h
  · rename_i nodes hs
    split at h
    · cases h
    · rename_i tail hrest
      cases h
      exact ⟨nodes, tail, hs, hrest, rfl⟩

/-- The first section is rendered as its body, and the others behind it. -/
lemma renderParsed_cons {s : Section} {nodes : List Node} (h : parse s.body = .ok nodes)
    (rest : List ParsedSection) :
    renderParsed b (⟨s.name, nodes⟩ :: rest) =
      (renderBody b s.body).andThen fun text =>
        (renderParsed b rest).andThen fun tail =>
          done (if text.toList.all Text.isBlank then tail else ⟨s.name, text⟩ :: tail) := by
  rw [renderParsed, renderBody_of_parse b h]
  simp only [andThen_assoc, done_andThen, String.toList_ofList]

/-- **Sections are rendered one after another as they are by themselves**: up to the first that
fails, and if none does, with the warnings of all. -/
lemma renderParsed_alone {parsed : List ParsedSection} (h : parseSections sections = .ok parsed)
    (ws : List String) :
    (∀ e, firstError? (fun s => (alone b s).result) sections = some e →
        (renderParsed b parsed ws).result = .error e) ∧
      (firstError? (fun s => (alone b s).result) sections = none →
        renderParsed b parsed ws =
          ⟨.ok (sections.filterMap (shown? b)),
            withWarnings ws (sections.flatMap fun s => (alone b s).warnings)⟩) := by
  induction sections generalizing parsed ws with
  | nil =>
      cases h
      refine ⟨fun e he => ?_, fun _ => by simp [renderParsed, done]⟩
      cases he
  | cons s rest ih =>
      obtain ⟨nodes, tail, hs, hrest, rfl⟩ := parseSections_cons_ok h
      have hown : renderBody b s.body ws = ⟨(alone b s).result, withWarnings ws (alone b s).warnings⟩ :=
        renderBody_takesNoNotice b s.body ws
      rw [renderParsed_cons hs, firstError?]
      cases hresult : (alone b s).result with
      | error e =>
          rw [hresult] at hown
          rw [andThen_of_error hown]
          refine ⟨fun e' he' => ?_, fun hnone => ?_⟩
          · cases he'
            rfl
          · cases hnone
      | ok text =>
          rw [hresult] at hown
          rw [andThen_of_ok hown]
          obtain ⟨hfails, hshows⟩ := ih hrest (withWarnings ws (alone b s).warnings)
          refine ⟨fun e he => ?_, fun hnone => ?_⟩
          · have hfail := hfails e he
            rcases htail : renderParsed b tail (withWarnings ws (alone b s).warnings) with ⟨_, ws'⟩
            rw [htail] at hfail
            cases hfail
            rw [andThen_of_error htail]
          · rw [andThen_of_ok (hshows hnone), List.flatMap_cons, withWarnings_append]
            have hshown : shown? b s =
                if text.toList.all Text.isBlank then none else some ⟨s.name, text⟩ := by
              rw [shown?, hresult]
            by_cases hblank : text.toList.all Text.isBlank <;>
              simp [hshown, hblank, done]

/-- A section that comes to a text has a body that can be read. -/
lemma parse_of_alone {s : Section} {text : String} (h : (alone b s).result = .ok text) :
    ∃ nodes, parse s.body = .ok nodes := by
  cases hs : parse s.body with
  | error e =>
      have herror : alone b s = ⟨.error e, []⟩ := by
        rw [alone, renderBody, hs]
        rfl
      rw [herror] at h
      cases h
  | ok nodes => exact ⟨nodes, rfl⟩

/-- **A document is the join of its sections, each rendered by itself, all or nothing.**  If a body
cannot be read, the error is that of the first such body, whatever else there is.  Otherwise a
required variable without value may be an error.  Otherwise the error is that of the first section
that fails by itself.  And if none does, there is a document: it shows the sections that are not
blank, in order, each as it is by itself, joined by the separator, with the warnings about required
variables and behind them every new warning of a section where it first occurs. -/
theorem renderSections_eq_join (separator : String) (template : MergedTemplate) (b : Bindings) :
    (renderSections separator template.sections b =
      match firstError? (fun s => parse s.body) template.sections with
      | some e => .error e
      | none =>
        match b.requiredWarnings with
        | .error e => .error e
        | .ok required =>
          match firstError? (fun s => (alone b s).result) template.sections with
          | some e => .error e
          | none =>
            let shown := template.sections.filterMap (shown? b)
            let own := template.sections.flatMap fun s => (alone b s).warnings
            .ok ⟨separator.intercalate (shown.map (·.text)), shown,
              required ++ (own.removeAll required).eraseDups⟩) ∧
      ((∃ d, renderSections separator template.sections b = .ok d) ↔
        (∃ required, b.requiredWarnings = .ok required) ∧
          ∀ s ∈ template.sections, ∃ text, (alone b s).result = .ok text) := by
  rw [renderSections]
  cases hparse : firstError? (fun s => parse s.body) template.sections with
  | some e =>
      rw [parseSections_of_firstError hparse]
      refine ⟨rfl, by rintro ⟨_, ⟨⟩⟩, ?_⟩
      rintro ⟨-, hall⟩
      have hnone := firstError?_eq_none_iff.mpr fun s hs => parse_of_alone (hall s hs).choose_spec
      rw [hparse] at hnone
      cases hnone
  | none =>
      obtain ⟨parsed, hparsed⟩ := exists_parseSections hparse
      rw [hparsed]
      cases b.requiredWarnings with
      | error e => exact ⟨rfl, by rintro ⟨_, ⟨⟩⟩, by rintro ⟨⟨_, ⟨⟩⟩, -⟩⟩
      | ok required =>
          obtain ⟨hfails, hshows⟩ := renderParsed_alone (b := b) hparsed required
          simp only [← firstError?_eq_none_iff]
          cases hfirst : firstError? (fun s => (alone b s).result) template.sections with
          | some e =>
              have hfail := hfails e hfirst
              rcases hrender : renderParsed b parsed required with ⟨_, ws⟩
              rw [hrender] at hfail
              cases hfail
              exact ⟨rfl, by rintro ⟨_, ⟨⟩⟩, by rintro ⟨-, ⟨⟩⟩⟩
          | none =>
              rw [hshows hfirst]
              exact ⟨rfl, fun _ => ⟨⟨required, rfl⟩, rfl⟩, fun _ => ⟨_, rfl⟩⟩

end Docket.Template
