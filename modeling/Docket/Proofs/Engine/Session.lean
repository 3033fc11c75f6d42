import Docket.Engine
import Mathlib.Tactic.Lemma

/-!
# What the operations of a session can do

Whatever an operation is for, it leaves the session alone or it loads the templates again, which
takes the next generation and empties the cache.  `Session.Reloads` is that alternative, and every
operation but the final keeping of a document is an instance of it.

What an operation makes of a request depends on the engine only, never on what the cache holds.
`Step.Alike` compares the steps of two sessions of one engine in that way.
-/

namespace Docket

namespace Session

/-! ## Loading again -/

/-- A session is as it was, or templates have been loaded again since. -/
inductive Reloads (s : Session) : Session → Prop
  | unchanged : Reloads s s
  | reloaded {s' : Session} (generation : s.engine.generation < s'.engine.generation)
      (cache : s'.cache.entries = []) : Reloads s s'

lemma Reloads.generation_le {s s' : Session} (h : Reloads s s') :
    s.engine.generation ≤ s'.engine.generation := by
  cases h with
  | unchanged => exact Nat.le_refl _
  | reloaded hgeneration _ => exact Nat.le_of_lt hgeneration

lemma Reloads.trans {a b c : Session} (hab : Reloads a b) (hbc : Reloads b c) : Reloads a c := by
  cases hbc with
  | unchanged => exact hab
  | reloaded hgeneration hcache =>
      cases hab with
      | unchanged => exact .reloaded hgeneration hcache
      | reloaded hbefore _ => exact .reloaded (Nat.lt_trans hbefore hgeneration) hcache

/-- A session of the same generation is the same. -/
lemma Reloads.eq_of_generation {s s' : Session} (h : Reloads s s')
    (heq : s'.engine.generation = s.engine.generation) : s' = s := by
  cases h with
  | unchanged => rfl
  | reloaded hgeneration _ => exact absurd heq.symm (Nat.ne_of_lt hgeneration)

variable [Objections] (s : Session) (disk : Disk)

/-- Loading again fails and changes nothing, or puts in what a fresh load gives. -/
lemma reload_result :
    ((∃ e, (s.reload disk).result = .error e) ∧ (s.reload disk).session = s) ∨
      ∃ l, Library.load disk s.engine.root s.engine.config = .ok l ∧
        (s.reload disk).result = .ok () ∧
        (s.reload disk).session =
          ⟨{ s.engine with library := l, generation := s.engine.generation + 1 },
            s.cache.cleared⟩ := by
  rw [reload]
  split
  · exact .inl ⟨⟨_, rfl⟩, rfl⟩
  · split
    · exact .inl ⟨⟨_, rfl⟩, rfl⟩
    · rename_i l hload
      exact .inr ⟨l, hload, rfl, rfl⟩

/-- Loading again fails and changes nothing, or takes the next generation. -/
lemma reload_cases :
    ((∃ e, (s.reload disk).result = .error e) ∧ (s.reload disk).session = s) ∨
      ((s.reload disk).result = .ok () ∧ (s.reload disk).session.cache.entries = [] ∧
        (s.reload disk).session.engine.generation = s.engine.generation + 1) := by
  rcases s.reload_result disk with herror | ⟨l, -, hresult, hsession⟩
  · exact .inl herror
  · rw [hsession]
    exact .inr ⟨hresult, rfl, rfl⟩

lemma reload_reloads : Reloads s (s.reload disk).session := by
  rcases s.reload_cases disk with ⟨_, hsame⟩ | ⟨_, hcache, hgeneration⟩
  · rw [hsame]
    exact .unchanged
  · exact .reloaded (by omega) hcache

lemma refresh_reloads : Reloads s (s.refresh disk).session := by
  rw [refresh]
  split
  · exact .unchanged
  · exact .unchanged
  · exact s.reload_reloads disk

/-- The first of several loads is required and fails, which is the end, or the others follow it. -/
lemma reloadAll_cons (call : Reload) (rest : List Reload) :
    (call = .required ∧ (∃ e, (s.reloadAll disk (call :: rest)).result = .error e) ∧
        (s.reloadAll disk (call :: rest)).session = (s.reload disk).session) ∨
      ((call = .attempted ∨ (s.reload disk).result = .ok ()) ∧
        (s.reloadAll disk (call :: rest)).result =
          ((s.reload disk).session.reloadAll disk rest).result ∧
        (s.reloadAll disk (call :: rest)).session =
          ((s.reload disk).session.reloadAll disk rest).session) := by
  rw [reloadAll]
  cases call with
  | attempted => exact .inr ⟨.inl rfl, rfl, rfl⟩
  | required =>
      cases (s.reload disk).result with
      | error e => exact .inl ⟨rfl, ⟨e, rfl⟩, rfl⟩
      | ok u => exact .inr ⟨.inr rfl, rfl, rfl⟩

lemma reloadAll_reloads (calls : List Reload) : Reloads s (s.reloadAll disk calls).session := by
  induction calls generalizing s with
  | nil => exact .unchanged
  | cons call rest ih =>
      have hfirst := s.reload_reloads disk
      rcases s.reloadAll_cons disk call rest with ⟨-, -, hsession⟩ | ⟨-, -, hsession⟩
      · rwa [hsession]
      · rw [hsession]
        exact hfirst.trans (ih _)

/-- Loads that are attempted only keep no renderer from its document. -/
lemma reloadAll_of_attempted {calls : List Reload} (h : ∀ call ∈ calls, call = .attempted) :
    (s.reloadAll disk calls).result = .ok () := by
  induction calls generalizing s with
  | nil => rfl
  | cons call rest ih =>
      obtain ⟨rfl, hrest⟩ := List.forall_mem_cons.mp h
      exact ih _ hrest

/-- Loads that all fail, and keep the renderer from nothing, were attempted only. -/
lemma attempted_of_reloadAll {calls : List Reload} (h : (s.reloadAll disk calls).result = .ok ())
    (hgeneration : (s.reloadAll disk calls).session.engine.generation = s.engine.generation) :
    ∀ call ∈ calls, call = .attempted := by
  induction calls generalizing s with
  | nil => nofun
  | cons call rest ih =>
      rcases s.reloadAll_cons disk call rest with
        ⟨-, ⟨e, herror⟩, -⟩ | ⟨hcall, hresult, hsession⟩
      · cases herror.symm.trans h
      · rw [hresult] at h
        rw [hsession] at hgeneration
        rcases s.reload_cases disk with ⟨⟨e, herror⟩, hsame⟩ | ⟨-, -, hnext⟩
        · rw [hsame] at h hgeneration
          have hattempted : call = .attempted :=
            hcall.resolve_right fun hok => by cases herror.symm.trans hok
          exact List.forall_mem_cons.mpr ⟨hattempted, ih s h hgeneration⟩
        · -- a load that succeeds takes a generation, and none is ever given back
          have hle := ((s.reload disk).session.reloadAll_reloads disk rest).generation_le
          omega

variable (template : MergedTemplate) (context : Context) (strictness : Strictness)

/-- Rendering leaves the session that the loads of the renderer leave. -/
lemma render_session : (s.render disk template context strictness).session =
    (s.reloadAll disk (s.engine.renderer template
      (Bindings.bind context.value template.schema strictness)).reloads).session := by
  rw [render]
  split <;> rfl

lemma render_reloads : Reloads s (s.render disk template context strictness).session := by
  rw [render_session]
  exact s.reloadAll_reloads disk _

variable {template context strictness} in
/-- A document comes out if the renderer comes to one and no load keeps it from that. -/
lemma render_eq_ok_iff {d : Template.Document} :
    (s.render disk template context strictness).result = .ok d ↔
      (s.reloadAll disk (s.engine.renderer template
          (Bindings.bind context.value template.schema strictness)).reloads).result = .ok () ∧
        (s.engine.renderer template
          (Bindings.bind context.value template.schema strictness)).result = .ok d := by
  rw [render]
  split <;> rename_i hloaded <;> simp [hloaded]

lemma degrade_reloads (f : Failure) : Reloads s (s.degrade disk f context).session := by
  rw [degrade]
  split
  · exact .unchanged
  · have hrender := s.render_reloads disk builtinTemplate context .lenient
    dsimp only
    split <;> exact hrender

lemma fail_reloads (f : Failure) (before : List Event) :
    Reloads s (s.fail disk f context before).session :=
  s.degrade_reloads disk context f

end Session

/-- Rendering sections leaves the session alone. -/
lemma Session.render_sections [Objections] {s : Session} {separator : String}
    (h : s.engine.renderer = sectionRenderer separator) (disk : Disk) (context : Context)
    (template : MergedTemplate) (strictness : Strictness) :
    s.render disk template context strictness =
      ⟨Template.renderSections separator template.sections
        (Bindings.bind context.value template.schema strictness), s, []⟩ := by
  rw [render, h]
  rfl

/-! ## Independence of the cache -/

/-- Two steps give the same result and leave the same engine. -/
structure Step.Alike {α : Type} (a b : Step α) : Prop where
  result : a.result = b.result
  engine : a.session.engine = b.session.engine

namespace Session

variable [Objections] {s s' : Session} (disk : Disk)

lemma reload_alike (h : s.engine = s'.engine) : (s.reload disk).Alike (s'.reload disk) := by
  rw [reload, reload, ← h]
  split
  · exact ⟨rfl, h⟩
  · split
    · exact ⟨rfl, h⟩
    · exact ⟨rfl, rfl⟩

lemma reloadAll_alike (h : s.engine = s'.engine) (calls : List Reload) :
    (s.reloadAll disk calls).Alike (s'.reloadAll disk calls) := by
  induction calls generalizing s s' with
  | nil => exact ⟨rfl, h⟩
  | cons call rest ih =>
      have hfirst := reload_alike disk h
      have hrest := ih hfirst.engine
      rw [reloadAll, reloadAll, ← hfirst.result]
      split
      · exact ⟨rfl, hfirst.engine⟩
      · exact ⟨hrest.result, hrest.engine⟩

lemma render_alike (h : s.engine = s'.engine) (template : MergedTemplate) (context : Context)
    (strictness : Strictness) :
    (s.render disk template context strictness).Alike
      (s'.render disk template context strictness) := by
  have hreloadAll := reloadAll_alike disk h (s.engine.renderer template
    (Bindings.bind context.value template.schema strictness)).reloads
  rw [render, render, ← h, ← hreloadAll.result]
  split <;> exact ⟨rfl, hreloadAll.engine⟩

lemma degrade_alike (h : s.engine = s'.engine) (f : Failure) (context : Context) :
    (s.degrade disk f context).Alike (s'.degrade disk f context) := by
  have hrender := render_alike disk h builtinTemplate context .lenient
  rw [degrade, degrade, ← h]
  split
  · exact ⟨rfl, h⟩
  · dsimp only
    rw [← hrender.result]
    split <;> exact ⟨rfl, hrender.engine⟩

lemma fail_alike (h : s.engine = s'.engine) (f : Failure) (context : Context)
    (before before' : List Event) :
    (s.fail disk f context before).Alike (s'.fail disk f context before') := by
  have hdegrade := degrade_alike disk h f context
  exact ⟨congrArg Except.error hdegrade.result, hdegrade.engine⟩

/-- **A document that is not in the cache is rendered without regard to the cache.** -/
theorem generateAnew_alike (h : s.engine = s'.engine) (now : Int) (request : Request)
    (context : Context) :
    (s.generateAnew disk now request context).Alike (s'.generateAnew disk now request context) := by
  rw [generateAnew, generateAnew, ← h]
  split
  · exact fail_alike disk h _ context [] []
  · rename_i resolution _
    have hrender := render_alike disk h resolution.template context request.strictness
    dsimp only
    rw [← hrender.result]
    split
    · exact fail_alike disk hrender.engine _ context _ _
    · exact ⟨rfl, hrender.engine⟩

end Session

end Docket
