import Docket.Proofs.Inheritance.Locality
import Docket.Proofs.Store.Order
import Docket.Resolution

/-!
# Falling back

`Store.Selects` says which step of the search ends it: the first one whose key is held, or the last
one, which looks for no key.  Everything else about a resolution follows from that step.  The path
is a miss for each step before it and a hit for itself (`Store.resolve_builtin`,
`Store.resolve_template`), and a template that cannot be merged ends the search all the same.

Merging happens twice for a template: when the store is built, to tell which ones are broken, and
when it is requested.  Both merge against the same fragments, so a request fails exactly if the
selected key is among the broken ones.

## Locality

A search reads the keys up to the selected step, and a merge reads the fragments that are reached
from there.  Stores that agree on these resolve the request alike (`Store.Selects.congr`,
`Definition.merge_congr`).
-/

namespace Docket

namespace Store

/-- `step` is the step that finds a template, after those in `tried` found none. -/
structure Selects (s : Store) (r : Request) (tried : List FallbackStep) (step : FallbackStep) :
    Prop where
  inOrder : ∃ later, FallbackStep.chain = tried ++ step :: later
  missed : ∀ t ∈ tried, ∃ key, t.key? r = some key ∧ s.template? key = none
  found : ∀ key, step.key? r = some key → ∃ d, s.template? key = some d

variable {s s' : Store} {r : Request} {tried : List FallbackStep} {step : FallbackStep}

/-! ## The selected step -/

/-- A step ends the search if it looks for no key, or for one that is held. -/
def endsAt (s : Store) (r : Request) (step : FallbackStep) : Bool :=
  match step.key? r with
  | none => true
  | some key => (s.template? key).isSome

/-- Some step finds a template. -/
lemma exists_selects (s : Store) (r : Request) : ∃ tried step, s.Selects r tried step := by
  have hends : (FallbackStep.chain.find? (s.endsAt r)).isSome := by
    apply List.find?_isSome.mpr
    exact ⟨.builtin, by simp [FallbackStep.chain], rfl⟩
  obtain ⟨step, hstep⟩ := Option.isSome_iff_exists.mp hends
  obtain ⟨hfound, tried, later, hchain, hmissed⟩ := List.find?_eq_some_iff_append.mp hstep
  refine ⟨tried, step, ⟨later, hchain⟩, ?_, ?_⟩
  · intro t ht
    have hnot := hmissed t ht
    cases hkey : t.key? r with
    | none => simp [endsAt, hkey] at hnot
    | some key => exact ⟨key, rfl, by simpa [endsAt, hkey] using hnot⟩
  · intro key hkey
    exact Option.isSome_iff_exists.mp (by simpa [endsAt, hkey] using hfound)

/-- The steps that found nothing leave their labels behind. -/
lemma resolveFrom_append (path : List String) (steps : List FallbackStep)
    (hmissed : ∀ t ∈ tried, ∃ key, t.key? r = some key ∧ s.template? key = none) :
    s.resolveFrom r path (tried ++ steps) =
      s.resolveFrom r (path ++ tried.map FallbackStep.miss) steps := by
  induction tried generalizing path with
  | nil => simp
  | cons t rest ih =>
      obtain ⟨key, hkey, hnone⟩ := hmissed t List.mem_cons_self
      have hrest := ih (path ++ [t.miss]) fun t' ht' => hmissed t' (List.mem_cons_of_mem _ ht')
      rw [List.cons_append, resolveFrom]
      simp only [hkey, hnone, hrest, List.map_cons, List.append_assoc, List.singleton_append]

/-- A miss for each step that was tried, and one hit. -/
def pathOf (tried : List FallbackStep) (step : FallbackStep) : List String :=
  tried.map FallbackStep.miss ++ [step.hit]

lemma resolve_builtin (h : s.Selects r tried step) (hkey : step.key? r = none) :
    s.resolve r = .ok ⟨builtinTemplate, pathOf tried step, step⟩ := by
  obtain ⟨later, hchain⟩ := h.inOrder
  rw [resolve, hchain, resolveFrom_append [] _ h.missed, resolveFrom]
  simp only [hkey, List.nil_append, pathOf]

lemma resolve_template (h : s.Selects r tried step) {key : TemplateKey} {d : Definition}
    (hkey : step.key? r = some key) (hd : s.template? key = some d) :
    s.resolve r =
      match s.merge d with
      | .ok m => .ok ⟨m, pathOf tried step, step⟩
      | .error e => .error ⟨e, d.id, pathOf tried step, none⟩ := by
  obtain ⟨later, hchain⟩ := h.inOrder
  rw [resolve, hchain, resolveFrom_append [] _ h.missed, resolveFrom]
  cases hmerge : s.merge d <;> simp only [hkey, hd, hmerge, List.nil_append, pathOf]

/-- A template that is held under the key of the request is found at once. -/
lemma resolve_exact {d : Definition} {m : MergedTemplate} (hd : s.template? r.key = some d)
    (hmerge : s.merge d = .ok m) : s.resolve r = .ok ⟨m, ["exact-hit"], .exact⟩ := by
  have hselects : s.Selects r [] .exact :=
    { inOrder := ⟨_, rfl⟩
      missed := by simp
      found := fun _ hkey => ⟨d, Option.some.inj hkey ▸ hd⟩ }
  rw [resolve_template hselects rfl hd, hmerge]
  rfl

/-! ## Broken templates -/

/-- In a store that was built, broken are those templates that are found but not merged. -/
lemma Sorted.mem_broken_iff (h : s.Sorted) {key : TemplateKey} {e : Error} :
    (key, e) ∈ s.broken ↔ ∃ d, s.template? key = some d ∧ s.merge d = .error e := by
  have hholds (d : Definition) : s.Holds d (.template key) ↔ s.template? key = some d :=
    h.holder?_eq_some_iff.symm
  simp only [Store.mem_broken_iff, hholds]

/-! ## Locality -/

/-- A search reads the keys up to the selected step only. -/
lemma Selects.congr (h : s.Selects r tried step)
    (hkeys : ∀ t ∈ tried ++ [step], ∀ key, t.key? r = some key →
      s'.template? key = s.template? key) : s'.Selects r tried step where
  inOrder := h.inOrder
  missed := by
    intro t ht
    obtain ⟨key, hkey, hnone⟩ := h.missed t ht
    exact ⟨key, hkey, by rw [hkeys t (List.mem_append_left _ ht) key hkey, hnone]⟩
  found := by
    intro key hkey
    obtain ⟨d, hd⟩ := h.found key hkey
    exact ⟨d, by rw [hkeys step (by simp) key hkey, hd]⟩

/-- Two stores resolve a request alike if they agree on what the one reads for it. -/
lemma resolve_congr (h : s.Selects r tried step)
    (hkeys : ∀ t ∈ tried ++ [step], ∀ key, t.key? r = some key →
      s'.template? key = s.template? key)
    (hfragments : ∀ key d name, step.key? r = some key → s.template? key = some d →
      Inheritance.Reaches s.fragments d.bases name → s'.fragment? name = s.fragment? name) :
    s'.resolve r = s.resolve r := by
  have h' : s'.Selects r tried step := h.congr hkeys
  cases hkey : step.key? r with
  | none => rw [resolve_builtin h hkey, resolve_builtin h' hkey]
  | some key =>
      obtain ⟨d, hd⟩ := h.found key hkey
      have hd' : s'.template? key = some d := by rw [hkeys step (by simp) key hkey, hd]
      have hmerge : s.merge d = s'.merge d := by
        apply Definition.merge_congr
        intro name hname
        exact (hfragments key d name hkey hd hname).symm
      rw [resolve_template h hkey hd, resolve_template h' hkey hd', hmerge]

/-! ## Order, completeness and locality -/

/-- **Falling back.**  The search tries the key of the request, the default of its platform and the
default of its technology, in this order; some step ends it.  Whichever step that is, the path has
one miss for each step before it and then one hit.  The request is answered with the built-in
template if that step looks for no key, and else with the template of the key and what that
inherits.  It fails exactly if the key is among the broken ones, for the reason recorded there, and
never goes on to another step.  And any other store answers the same if it holds the same templates
under the keys up to that step and the same fragments under the names reached from the selected
template. -/
theorem resolve_selects {ds : List Definition} (hs : ofDefinitions ds = .ok s) (r : Request) :
    FallbackStep.chain.map (·.key? r) =
        [some ⟨r.platform, r.documentType, r.techStack⟩,
          some ⟨r.platform, r.documentType, "custom"⟩,
          some ⟨"any", r.documentType, r.techStack⟩, none] ∧
      (∃ tried step, s.Selects r tried step) ∧
      ∀ tried step, s.Selects r tried step →
        (∀ resolution, s.resolve r = .ok resolution ↔
          (step.key? r = none ∧ resolution = ⟨builtinTemplate, pathOf tried step, step⟩) ∨
            ∃ key d m, step.key? r = some key ∧ s.template? key = some d ∧ s.merge d = .ok m ∧
              resolution = ⟨m, pathOf tried step, step⟩) ∧
          (∀ f, s.resolve r = .error f ↔
            ∃ key d e, step.key? r = some key ∧ s.template? key = some d ∧ (key, e) ∈ s.broken ∧
              f = ⟨e, d.id, pathOf tried step, none⟩) ∧
          ∀ s' : Store,
            (∀ t ∈ tried ++ [step], ∀ key, t.key? r = some key →
              s'.template? key = s.template? key) →
            (∀ key d name, step.key? r = some key → s.template? key = some d →
              Inheritance.Reaches s.fragments d.bases name →
                s'.fragment? name = s.fragment? name) →
            s'.resolve r = s.resolve r := by
  refine ⟨rfl, s.exists_selects r, ?_⟩
  intro tried step h
  refine ⟨?_, ?_, fun s' => resolve_congr h⟩
  · intro resolution
    cases hkey : step.key? r with
    | none =>
        rw [resolve_builtin h hkey]
        simp [eq_comm]
    | some key =>
        obtain ⟨d, hd⟩ := h.found key hkey
        rw [resolve_template h hkey hd]
        cases hmerge : s.merge d <;> simp [hd, hmerge, eq_comm]
  · intro f
    cases hkey : step.key? r with
    | none =>
        rw [resolve_builtin h hkey]
        simp
    | some key =>
        obtain ⟨d, hd⟩ := h.found key hkey
        rw [resolve_template h hkey hd]
        simp only [(sorted_of_ofDefinitions hs).mem_broken_iff]
        cases hmerge : s.merge d <;> simp [hd, hmerge, eq_comm]

/-! ### A broken default hides one that could be merged -/

/-- The default of a platform, based on a fragment that is not there. -/
def legalStory : Definition :=
  ⟨.template ⟨"jira", "story", "custom"⟩, "1", none, [], [], ["legal"], "legal.yaml"⟩

/-- The default of a technology, which can be merged. -/
def plainStory : Definition :=
  ⟨.template ⟨"any", "story", "rust"⟩, "1", none, [], [], [], "plain.yaml"⟩

/-- Both defaults. -/
def storyStore : Store where
  templates := [(⟨"any", "story", "rust"⟩, plainStory), (⟨"jira", "story", "custom"⟩, legalStory)]

/-- The default of the platform alone. -/
def legalStore : Store where
  templates := [(⟨"jira", "story", "custom"⟩, legalStory)]

/-- A request that has no template of its own in these stores. -/
def storyRequest : Request := ⟨"jira", "story", "rust", .lenient⟩

lemma storyStore_selects : storyStore.Selects storyRequest [.exact] .platformDefault where
  inOrder := ⟨_, rfl⟩
  missed := by
    intro t ht
    obtain rfl := List.mem_singleton.mp ht
    exact ⟨_, rfl, rfl⟩
  found := by
    intro key hkey
    cases hkey
    exact ⟨legalStory, rfl⟩

theorem resolve_selects_story :
    ofDefinitions [legalStory, plainStory] = .ok storyStore ∧
      storyStore.Selects storyRequest [.exact] .platformDefault ∧
      storyStore.resolve storyRequest =
        .error ⟨.fragmentNotFound "legal" "jira/story/custom@1", "jira/story/custom@1",
          ["exact-miss", "platform+docType-default-hit"], none⟩ ∧
      legalStore.resolve storyRequest = storyStore.resolve storyRequest := by
  have hs : ofDefinitions [legalStory, plainStory] = .ok storyStore := rfl
  have hmerge : storyStore.merge legalStory =
      .error (.fragmentNotFound "legal" "jira/story/custom@1") := by cbv
  have hbroken : (⟨"jira", "story", "custom"⟩,
      .fragmentNotFound "legal" "jira/story/custom@1") ∈ storyStore.broken :=
    mem_broken_iff.mpr ⟨legalStory, by simp [Holds, storyStore], hmerge⟩
  obtain ⟨-, -, hselects⟩ := resolve_selects hs storyRequest
  obtain ⟨-, herror, hlocal⟩ := hselects _ _ storyStore_selects
  refine ⟨hs, storyStore_selects, ?_, ?_⟩
  · exact (herror _).mpr ⟨_, legalStory, _, rfl, rfl, hbroken, rfl⟩
  · apply hlocal legalStore
    · intro t ht key hkey
      rcases List.mem_pair.mp ht with rfl | rfl
      · cases hkey
        rfl
      · cases hkey
        rfl
    · intro key d name _ _ _
      rfl

end Store

end Docket
