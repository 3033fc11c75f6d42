import Docket.Engine
import Docket.Proofs.Inheritance.Flattening
import Docket.Proofs.Resolution.Fallback

/-!
# What a store generates

`Store.generated` is the document that a request and a context ask for, told without any cache or
reload: resolve the request, bind the context, render.  `resolve_ok` and `resolve_error` say where a
resolution comes from.
-/

namespace Docket

namespace Store

/-- What resolving a request, binding a context and rendering come to with the templates of a
store. -/
def generated (s : Store) (renderer : Renderer) (request : Request) (context : Context) :
    Except Failure Output :=
  match s.resolve request with
  | .error f => .error f
  | .ok resolution =>
    match (renderer resolution.template
        (Bindings.bind context.value resolution.template.schema request.strictness)).result with
    | .error e => .error ⟨e, resolution.template.id, resolution.path, none⟩
    | .ok d => .ok (d.output resolution.template.id resolution.path)

/-- A document that a store generates is what the renderer makes of a resolved template. -/
lemma generated_ok {s : Store} {renderer : Renderer} {request : Request} {context : Context}
    {output : Output} (h : s.generated renderer request context = .ok output) :
    ∃ resolution d, s.resolve request = .ok resolution ∧
      (renderer resolution.template
        (Bindings.bind context.value resolution.template.schema request.strictness)).result =
          .ok d ∧
      output = d.output resolution.template.id resolution.path := by
  rw [generated] at h
  split at h
  · cases h
  · rename_i resolution hresolve
    split at h
    · cases h
    · rename_i d hd
      exact ⟨resolution, d, hresolve, hd, (Except.ok.inj h).symm⟩

/-! ## Where a resolution comes from -/

/-- The search ends with the built-in template, or with merging a template of the store. -/
lemma resolve_eq (s : Store) (r : Request) :
    (∃ path step, s.resolve r = .ok ⟨builtinTemplate, path, step⟩) ∨
      ∃ key d path step, s.template? key = some d ∧
        s.resolve r =
          match s.merge d with
          | .ok template => .ok ⟨template, path, step⟩
          | .error e => .error ⟨e, d.id, path, none⟩ := by
  obtain ⟨tried, step, h⟩ := s.exists_selects r
  cases hkey : step.key? r with
  | none => exact .inl ⟨_, step, resolve_builtin h hkey⟩
  | some key =>
      obtain ⟨d, hd⟩ := h.found key hkey
      exact .inr ⟨key, d, _, step, hd, resolve_template h hkey hd⟩

/-- A resolved template is the built-in one, or a template of the store with what it inherits. -/
lemma resolve_ok {s : Store} {r : Request} {resolution : Resolution}
    (h : s.resolve r = .ok resolution) :
    resolution.template = builtinTemplate ∨
      ∃ key d, s.template? key = some d ∧ s.merge d = .ok resolution.template := by
  rcases s.resolve_eq r with ⟨path, step, heq⟩ | ⟨key, d, path, step, hd, heq⟩ <;> rw [heq] at h
  · cases h
    exact .inl rfl
  · cases hmerge : s.merge d with
    | error e => simp [hmerge] at h
    | ok template =>
        simp only [hmerge, Except.ok.injEq] at h
        exact .inr ⟨key, d, hd, by rw [← h]; exact hmerge⟩

/-- A resolution fails only for a template of the store that cannot be merged. -/
lemma resolve_error {s : Store} {r : Request} {f : Failure} (h : s.resolve r = .error f) :
    ∃ key d, s.template? key = some d ∧ s.merge d = .error f.cause := by
  rcases s.resolve_eq r with ⟨path, step, heq⟩ | ⟨key, d, path, step, hd, heq⟩ <;> rw [heq] at h
  · cases h
  · cases hmerge : s.merge d with
    | ok template => simp [hmerge] at h
    | error e =>
        simp only [hmerge, Except.error.injEq] at h
        exact ⟨key, d, hd, by rw [← h]; exact hmerge⟩

end Store

end Docket
