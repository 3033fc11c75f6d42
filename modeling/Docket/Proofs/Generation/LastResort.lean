import Docket.Proofs.Bindings.Defaults
import Docket.Proofs.Engine.Session
import Docket.Proofs.Generation.Checked
import Docket.Proofs.Rendering.Relation

/-!
# The last resort

The built-in template is what remains when there is no other one.  It names two variables: the
title, which has a default, and the description, which is only shown if there is one.  So all its
references have values, and it can be rendered for every context, under strictness too, without a
warning (`exists_builtinDocument`).  `Quiet` is the property of renderings behind this; a reference
with a value has it, and a condition, if its body has it wherever the condition has a value.

An engine that renders sections falls back on the built-in template twice.  If a store has none of
the keys that are looked for, the built-in template answers the request.  And if the generation
fails, it can stand in for the document that is missing (`Failure.withBuiltin`); apart from that, an
engine comes to what its store generates (`Session.generateAnew_result`).
-/

namespace Docket

/-! ## Renderings without trouble -/

namespace Template

open Rendering

/-- A rendering succeeds and gives no warnings. -/
def Quiet {α : Type} (r : Rendering α) : Prop := ∀ ws, ∃ a, r ws = ⟨.ok a, ws⟩

lemma quiet_done {α : Type} (a : α) : Quiet (done a) := fun _ => ⟨a, rfl⟩

lemma Quiet.andThen {α β : Type} {r : Rendering α} {f : α → Rendering β} (hr : Quiet r)
    (hf : ∀ a, Quiet (f a)) : Quiet (r.andThen f) := by
  intro ws
  obtain ⟨a, ha⟩ := hr ws
  rw [andThen_of_ok ha]
  exact hf a ws

variable {b : Bindings} {frames : List Frame} {p : Path}

lemma quiet_text (s : String) : Quiet (renderNode b frames (.text s)) := by
  rw [renderNode]
  exact quiet_done s.toList

/-- A reference with a value is rendered without trouble. -/
lemma quiet_reference (h : (resolve b frames p).isSome) :
    Quiet (renderNode b frames (.expr ⟨p, []⟩)) := by
  obtain ⟨v, hv⟩ := Option.isSome_iff_exists.mp h
  intro ws
  simp only [renderNode, renderExpression, hv]
  exact ⟨_, rfl⟩

/-- In the body of a condition its path has a value. -/
lemma quiet_condition {body otherwise : List Node}
    (hbody : (resolve b frames p).isSome → Quiet (renderNodes b frames body))
    (hotherwise : Quiet (renderNodes b frames otherwise)) :
    Quiet (renderNode b frames (.block .cond p body otherwise)) := by
  rw [renderNode]
  cases hvalue : resolve b frames p with
  | none => simpa using hotherwise
  | some v =>
      split
      · exact hbody (by rw [hvalue]; rfl)
      · exact hotherwise

lemma quiet_nodes {nodes : List Node} (h : ∀ node ∈ nodes, Quiet (renderNode b frames node)) :
    Quiet (renderNodes b frames nodes) := by
  induction nodes with
  | nil => exact quiet_done []
  | cons node rest ih =>
      obtain ⟨hnode, hrest⟩ := List.forall_mem_cons.mp h
      exact hnode.andThen fun _ => (ih hrest).andThen fun _ => quiet_done _

lemma quiet_sections {parsed : List ParsedSection}
    (h : ∀ s ∈ parsed, Quiet (renderNodes b [] s.nodes)) : Quiet (renderParsed b parsed) := by
  induction parsed with
  | nil => exact quiet_done []
  | cons s rest ih =>
      obtain ⟨hs, hrest⟩ := List.forall_mem_cons.mp h
      exact hs.andThen fun _ => (ih hrest).andThen fun _ => quiet_done _

/-- Sections without trouble make a document without warnings if no variable is required. -/
lemma exists_document {sections : List Section} {parsed : List ParsedSection}
    (hparsed : parseSections sections = .ok parsed) (hdeclared : ∀ d ∈ b.declared, d.2 = false)
    (h : ∀ s ∈ parsed, Quiet (renderNodes b [] s.nodes)) (separator : String) :
    ∃ d, renderSections separator sections b = .ok d ∧ d.warnings = [] := by
  have hmissing : b.missingRequired = [] := by
    rw [Bindings.missingRequired, List.map_eq_nil_iff, List.filter_eq_nil_iff]
    intro d hd
    simp [hdeclared d hd]
  have hrequired : b.requiredWarnings = .ok [] := by
    rw [Bindings.requiredWarnings, hmissing]
    cases b.strictness <;> rfl
  obtain ⟨rendered, hrendered⟩ := quiet_sections h []
  simp only [renderSections, hparsed, hrequired, hrendered]
  exact ⟨_, rfl, rfl⟩

end Template

/-! ## The built-in template -/

section Builtin

open Template

/-- The path of the title. -/
def titlePath : Path := ⟨.root, [.key "title"]⟩

/-- The path of the description. -/
def descriptionPath : Path := ⟨.root, [.key "description"]⟩

/-- The sections of the built-in template as they are read. -/
def builtinSections : List ParsedSection :=
  [⟨"Summary", [.expr ⟨titlePath, []⟩]⟩,
   ⟨"Description",
    [.block .cond descriptionPath [.expr ⟨descriptionPath, []⟩]
      [.text "No description provided."]]⟩]

lemma parseSections_builtin :
    parseSections builtinTemplate.sections = .ok builtinSections := by rfl

variable (context : Value) (strictness : Strictness)

/-- The title always has a value: the one of the context, or else its default. -/
lemma isSome_title :
    (resolve (Bindings.bind context builtinTemplate.schema strictness) [] titlePath).isSome := by
  have hname : Bindings.canonicalName "title" = titlePath.canonical := by cbv
  have hnonempty : (Bindings.canonicalName "title").toList ≠ [] := by rw [hname]; decide
  have hdefault : ({ required := some false, default := some (.text "Untitled document") } :
      Declaration).default = some (.text "Untitled document") := rfl
  have hbound := Bindings.get?_bind_own context strictness hdefault hnonempty []
    [("description", { required := some false })]
  rw [hname] at hbound
  have hresolve : resolve (Bindings.bind context builtinTemplate.schema strictness) [] titlePath =
      (Bindings.bind context builtinTemplate.schema strictness).get? titlePath.canonical := rfl
  rw [hresolve]
  exact Option.isSome_of_mem hbound

/-- **The built-in template can be rendered for every context**, under strictness too, and gives no
warnings. -/
lemma exists_builtinDocument (separator : String) :
    ∃ d, renderSections separator builtinTemplate.sections
        (Bindings.bind context builtinTemplate.schema strictness) = .ok d ∧ d.warnings = [] := by
  refine exists_document parseSections_builtin ?_ ?_ separator
  · simp [Bindings.bind, builtinTemplate, Declaration.isRequired]
  · refine List.forall_mem_cons.mpr ⟨?_, List.forall_mem_singleton.mpr ?_⟩
    · exact quiet_nodes (List.forall_mem_singleton.mpr
        (quiet_reference (isSome_title context strictness)))
    · refine quiet_nodes (List.forall_mem_singleton.mpr (quiet_condition ?_ ?_))
      · exact fun hdescription =>
          quiet_nodes (List.forall_mem_singleton.mpr (quiet_reference hdescription))
      · exact quiet_nodes (List.forall_mem_singleton.mpr (quiet_text _))

end Builtin

/-! ## Failures -/

namespace Failure

/-- A failure with what the built-in template comes to in its place, if that is wanted. -/
def withBuiltin (wanted : Bool) (separator : String) (context : Context) (f : Failure) : Failure :=
  if wanted then
    match Template.renderSections separator builtinTemplate.sections
        (Bindings.bind context.value builtinTemplate.schema .lenient) with
    | .ok d =>
      let path := f.path ++ [FallbackStep.builtin.hit]
      { f with degraded := some (d.output builtinTemplate.id path) }
    | .error _ => f
  else f

variable (separator : String) (context : Context) (f : Failure)

lemma withBuiltin_unwanted : f.withBuiltin false separator context = f := rfl

/-- If it is wanted, the built-in template does stand in. -/
lemma withBuiltin_wanted :
    ∃ o, f.withBuiltin true separator context = { f with degraded := some o } ∧
      o.templateId = builtinTemplate.id ∧ o.path = f.path ++ [FallbackStep.builtin.hit] := by
  obtain ⟨d, hd, -⟩ := exists_builtinDocument context.value .lenient separator
  simp only [withBuiltin, if_true, hd]
  exact ⟨_, rfl, rfl, rfl⟩

@[simp] lemma withBuiltin_cause (wanted : Bool) :
    (f.withBuiltin wanted separator context).cause = f.cause := by
  cases wanted with
  | false => rfl
  | true =>
      obtain ⟨o, ho, -⟩ := f.withBuiltin_wanted separator context
      rw [ho]

end Failure

namespace Store

variable {s : Store} {r : Request}

/-- If a store has none of the keys that are looked for, the built-in template is found. -/
lemma resolve_of_unheld
    (h : ∀ step key, FallbackStep.key? step r = some key → s.template? key = none) :
    ∃ path step, s.resolve r = .ok ⟨builtinTemplate, path, step⟩ := by
  obtain ⟨tried, step, hselects⟩ := s.exists_selects r
  refine ⟨_, step, resolve_builtin hselects ?_⟩
  cases hkey : step.key? r with
  | none => rfl
  | some key =>
      obtain ⟨d, hd⟩ := hselects.found key hkey
      rw [h step key hkey] at hd
      cases hd

/-- A store by itself puts nothing in the place of a document that is missing. -/
lemma generated_degraded {renderer : Renderer} {context : Context} {f : Failure}
    (h : s.generated renderer r context = .error f) : f.degraded = none := by
  rw [generated] at h
  split at h
  · rename_i f' hresolve
    cases h
    rcases s.resolve_eq r with ⟨path, step, heq⟩ | ⟨key, d, path, step, -, heq⟩ <;>
      rw [heq] at hresolve
    · cases hresolve
    · split at hresolve <;> cases hresolve
      rfl
  · split at h <;> cases h
    rfl

end Store

/-! ## Engines that render sections -/

namespace Session

variable [Objections] {s : Session} {separator : String}
  (h : s.engine.renderer = sectionRenderer separator) (disk : Disk) (now : Int) (request : Request)
  (context : Context)

include h

lemma fail_result (f : Failure) (before : List Event) :
    (s.fail disk f context before).result =
      .error (f.withBuiltin s.engine.config.degradedFallback separator context) := by
  have hrender := render_sections h disk context builtinTemplate .lenient
  cases hwanted : s.engine.config.degradedFallback with
  | false =>
      simp only [fail, degrade, hwanted, Failure.withBuiltin_unwanted, Bool.not_false, if_true]
  | true =>
      obtain ⟨d, hd, -⟩ := exists_builtinDocument context.value .lenient separator
      simp only [fail, degrade, hwanted, hrender, hd, Failure.withBuiltin, Bool.not_true,
        Bool.false_eq_true, if_false, if_true]

/-- **Without its cache, an engine comes to what its store generates**; a failure may have the
built-in document in its place. -/
lemma generateAnew_result :
    (s.generateAnew disk now request context).result =
      (s.engine.store.generated (sectionRenderer separator) request context).mapError
        (Failure.withBuiltin s.engine.config.degradedFallback separator context) := by
  rw [generateAnew, Store.generated]
  cases s.engine.store.resolve request with
  | error f => exact fail_result h disk context f []
  | ok resolution =>
      have hrender := render_sections h disk context resolution.template request.strictness
      simp only [hrender, sectionRenderer]
      cases Template.renderSections separator resolution.template.sections
        (Bindings.bind context.value resolution.template.schema request.strictness) with
      | error e => exact fail_result h disk context _ []
      | ok d => rfl

/-- A request is answered from the cache, or comes to what the store generates. -/
lemma generate_result :
    (∃ o, (s.generate disk now request context).result = .ok o) ∨
      (s.generate disk now request context).result =
        (s.engine.store.generated (sectionRenderer separator) request context).mapError
          (Failure.withBuiltin s.engine.config.degradedFallback separator context) := by
  rw [generate]
  split
  · exact .inl ⟨_, rfl⟩
  · rename_i cache _
    exact .inr (generateAnew_result (s := { s with cache := cache }) h disk now request context)

end Session

/-- **The last resort never fails.**  The built-in template can be rendered for every context and
both strictnesses, without warnings.  So an engine that renders sections answers every request that
its store has no template for, and a failed generation has the built-in document in its place, under
the path of the failure and one more hit, exactly if the settings want that. -/
theorem builtinTemplate_lastResort [Objections] (separator : String) (context : Context) :
    (∀ strictness, ∃ d,
        sectionRenderer separator builtinTemplate
          (Bindings.bind context.value builtinTemplate.schema strictness) = ⟨[], .ok d⟩ ∧
        d.warnings = []) ∧
      ∀ (s : Session) (disk : Disk) (now : Int) (request : Request),
        s.engine.renderer = sectionRenderer separator →
          ((∀ step key, FallbackStep.key? step request = some key →
              s.engine.store.template? key = none) →
            ∃ o, (s.generate disk now request context).result = .ok o) ∧
          ∀ f, (s.generate disk now request context).result = .error f →
            if s.engine.config.degradedFallback then
              ∃ o, f.degraded = some o ∧ o.templateId = builtinTemplate.id ∧
                o.path = f.path ++ [FallbackStep.builtin.hit]
            else f.degraded = none := by
  refine ⟨fun strictness => ?_, fun s disk now request hrenderer => ?_⟩
  · obtain ⟨d, hd, hwarnings⟩ := exists_builtinDocument context.value strictness separator
    exact ⟨d, by rw [sectionRenderer, hd], hwarnings⟩
  rcases Session.generate_result hrenderer disk now request context with ⟨o, ho⟩ | hresult
  · rw [ho]
    refine ⟨fun _ => ⟨o, rfl⟩, fun f hf => ?_⟩
    cases hf
  rw [hresult]
  constructor
  · intro hunheld
    obtain ⟨path, step, hresolve⟩ := Store.resolve_of_unheld hunheld
    obtain ⟨d, hd, -⟩ := exists_builtinDocument context.value request.strictness separator
    simp only [Store.generated, hresolve, sectionRenderer, hd]
    exact ⟨_, rfl⟩
  · intro f hf
    cases hgenerated :
        s.engine.store.generated (sectionRenderer separator) request context with
    | ok o =>
        rw [hgenerated] at hf
        cases hf
    | error f' =>
        rw [hgenerated] at hf
        cases hf
        cases s.engine.config.degradedFallback with
        | false => exact Store.generated_degraded hgenerated
        | true =>
            obtain ⟨o, ho, hid, hpath⟩ := f'.withBuiltin_wanted separator context
            rw [ho]
            exact ⟨o, rfl, hid, hpath⟩

/-! ## An engine whose only template fails -/

attribute [local instance] Objections.terse

/-- An engine with the template whose context does not fit, and no other. -/
def issueSession : Session :=
  ⟨.ofLibrary (.ofStore issueStore) { degradedFallback := true, separator := "\n" }, .empty 60000⟩

/-- A request that the engine has no template for. -/
def epicRequest : Request := ⟨"github", "epic", "go", .strict⟩

/-- A context with nothing under the names of the built-in template that could be shown as it is. -/
def epicContext : Context :=
  ⟨[("", .map [("title", .bool false)]), ("description", .list [.null]), ("title", .null)]⟩

lemma issueSession_result (disk : Disk) :
    (issueSession.generate disk 0 issueRequest issueContext).result =
      .error (issueFailure.withBuiltin true "\n" issueContext) := by
  have hanew : issueSession.generate disk 0 issueRequest issueContext =
      issueSession.generateAnew disk 0 issueRequest issueContext := rfl
  have hgenerated : issueSession.engine.store.generated (sectionRenderer "\n") issueRequest
      issueContext = .error issueFailure := issueStore_generated
  rw [hanew, Session.generateAnew_result rfl disk 0 issueRequest issueContext, hgenerated]
  rfl

lemma issueSession_unheld (step : FallbackStep) (key : TemplateKey)
    (h : step.key? epicRequest = some key) : issueSession.engine.store.template? key = none := by
  cases step <;> cases h <;> rfl

theorem builtinTemplate_lastResort_issue :
    let disk : Disk := ⟨.emptyDirectory, []⟩
    issueSession.engine.renderer = sectionRenderer "\n" ∧
      (∃ o, (issueSession.generate disk 0 epicRequest epicContext).result = .ok o) ∧
      ∃ f o, (issueSession.generate disk 0 issueRequest issueContext).result = .error f ∧
        f.degraded = some o ∧ o.templateId = "builtin/default@1" ∧
        o.path = f.path ++ ["builtin-default-hit"] := by
  intro disk
  have hepic := (builtinTemplate_lastResort "\n" epicContext).2 issueSession disk 0 epicRequest rfl
  have hissue :=
    (builtinTemplate_lastResort "\n" issueContext).2 issueSession disk 0 issueRequest rfl
  obtain ⟨o, ho, hid, hpath⟩ := hissue.2 _ (issueSession_result disk)
  exact ⟨rfl, hepic.1 issueSession_unheld, _, o, issueSession_result disk, ho, hid, hpath⟩

end Docket
