import Docket.Proofs.Engine.Transparency
import Mathlib.Logic.Function.Basic

/-!
# Engines that share a cache

Engines may use one cache.  `Fleet` is such a group of engines with the files and the clock; what
happens to it happens to one of its engines, as it would to an engine of its own.

Loading again empties the cache, whichever engine does it.  So entries never outlive the templates
of the engine that made them: each is what some engine renders with the templates that it has loaded
now (`Fleet.Coherent`), and nothing else is ever handed out (`Fleet.run_generated`).  But the engine
that made an entry need not be the one that asks for it.  How often templates have been loaded is
counted by each engine for itself, so an engine that still has old templates fills the cache again
after another one has emptied it, and that one is answered with a document of templates that it has
replaced (`Fleet.run_outdated`).
-/

namespace Docket

/-! ## Fleets -/

/-- Engines that use one cache, with the files and the time. -/
structure Fleet (ι : Type) where
  engines : ι → Engine
  cache : Cache Output
  disk : Disk
  now : Int

namespace Fleet

variable {ι : Type}

/-- Engines whose common cache is empty. -/
def start (engines : ι → Engine) (lifetime : Int) (disk : Disk) (now : Int) : Fleet ι :=
  ⟨engines, .empty lifetime, disk, now⟩

/-- One of the engines together with the cache. -/
def session (f : Fleet ι) (i : ι) : Session := ⟨f.engines i, f.cache⟩

/-- One of the engines at work. -/
def world (f : Fleet ι) (i : ι) : World := ⟨f.session i, f.disk, f.now⟩

variable [DecidableEq ι]

variable [Objections]

/-- What is left of a fleet when one of its engines has been at work. -/
def step (f : Fleet ι) : ι × Action → Fleet ι := fun (i, action) =>
  let w := (f.world i).step action
  ⟨Function.update f.engines i w.session.engine, w.session.cache, w.disk, w.now⟩

/-- The fleet after a list of actions, each of one of its engines. -/
def run (f : Fleet ι) (actions : List (ι × Action)) : Fleet ι := actions.foldl step f

lemma run_cons (f : Fleet ι) (x : ι × Action) (rest : List (ι × Action)) :
    f.run (x :: rest) = (f.step x).run rest := rfl

end Fleet

/-! ## Coherent fleets -/

namespace Fleet

variable {ι : Type} {f : Fleet ι} {queries : List Query}

/-- Every entry of the cache is what a query of the list, with that key, is rendered to with the
templates that one of the engines has loaded now. -/
def Coherent (f : Fleet ι) (queries : List Query) : Prop :=
  ∀ key e, (key, e) ∈ f.cache.entries →
    ∃ i, ∃ q ∈ queries, q.key = key ∧ (f.session i).Yields q e.output

lemma coherent_of_no_entries (h : f.cache.entries = []) : f.Coherent queries := by
  intro key e he
  rw [h] at he
  cases he

variable [DecidableEq ι] [Objections]

/-- What one engine does keeps the cache of all coherent. -/
lemma coherent_step (h : f.Coherent queries) (i : ι) (action : Action)
    (hquery : ∀ q ∈ action.query?, q ∈ queries) : (f.step (i, action)).Coherent queries := by
  cases (f.world i).step_keeps action with
  | emptied hcache => exact coherent_of_no_entries hcache
  | kept hengine hentries =>
      -- no engine has changed, so what one of them yielded it yields now
      have hengines : (f.step (i, action)).engines = f.engines := by
        simp only [step, hengine]
        exact Function.update_eq_self i f.engines
      have hyields (j : ι) (q : Query) (output : Output) (hj : (f.session j).Yields q output) :
          ((f.step (i, action)).session j).Yields q output := by
        simpa only [session, Session.Yields, hengines] using hj
      intro key e he
      rcases hentries key e he with he | ⟨q, hq, hkey, hi⟩
      · obtain ⟨j, q, hq, hkey, hj⟩ := h key e he
        exact ⟨j, q, hq, hkey, hyields j q e.output hj⟩
      · exact ⟨i, q, hquery q hq, hkey, hyields i q e.output hi⟩

/-- A run keeps the cache coherent. -/
lemma coherent_run (h : f.Coherent queries) (actions : List (ι × Action))
    (hasked : asked (actions.map Prod.snd) ⊆ queries) : (f.run actions).Coherent queries := by
  induction actions generalizing f with
  | nil => exact h
  | cons x rest ih =>
      obtain ⟨i, action⟩ := x
      obtain ⟨hquery, hrest⟩ := asked_cons_subset hasked
      exact ih (coherent_step h i action hquery) hrest

end Fleet

/-! ## Answers -/

/-- What has just been put in is handed out. -/
lemma Cache.get_put {α : Type} {c : Cache α} (hlifetime : 0 < c.lifetime) (now : Int)
    (key : String) (output : α) : ((c.put now key output).get now key).1 = some output := by
  have hfind : (c.put now key output).find? key = some ⟨output, now, c.lifetime⟩ := by
    simp [find?, put, insert, purged]
  have halive : (CacheEntry.mk output now c.lifetime).isExpired now = false := by
    simp [CacheEntry.isExpired, hlifetime]
  simp only [get, hfind]
  rw [halive]
  rfl

namespace Session

variable [Objections] {s : Session} {disk : Disk} {now : Int} {request : Request}
  {context : Context}

lemma generate_of_get {q : Query} {output : Output}
    (h : (s.cache.get now q.key).1 = some output) :
    (s.generate disk now q.request q.context).result = .ok output := by
  rw [generate]
  split
  · rename_i output' cache hget
    have hsame : some output' = some output := (congrArg Prod.fst hget).symm.trans h
    cases hsame
    rfl
  · rename_i cache hget
    cases (congrArg Prod.fst hget).symm.trans h

lemma reload_ok (hroot : s.engine.root.isEmpty = false) {l : Library}
    (h : Library.load disk s.engine.root s.engine.config = .ok l) :
    (s.reload disk).result = .ok () ∧ (s.reload disk).session.engine =
      { s.engine with library := l, generation := s.engine.generation + 1 } := by
  rw [reload, hroot, h]
  exact ⟨rfl, rfl⟩

lemma reload_lifetime (s : Session) (disk : Disk) :
    (s.reload disk).session.cache.lifetime = s.cache.lifetime := by
  rw [reload]
  split
  · rfl
  · split <;> rfl

/-- With an empty cache, an engine that renders sections keeps what its store generates. -/
lemma session_generate_of_generated {separator : String}
    (hrenderer : s.engine.renderer = sectionRenderer separator) {q : Query} {output : Output}
    (h : s.engine.store.generated (sectionRenderer separator) q.request q.context = .ok output)
    (hcache : s.cache.entries = []) :
    (s.generate disk now q.request q.context).session =
      { s with cache := s.cache.put now q.key output } := by
  obtain ⟨resolution, d, hresolve, hd, rfl⟩ := Store.generated_ok h
  have hget : s.cache.get now (Cache.key q.request q.context) = (none, s.cache) := by
    simp [Cache.get, Cache.find?, hcache]
  have hrender := render_sections hrenderer disk q.context resolution.template
    q.request.strictness
  simp only [sectionRenderer] at hd
  simp only [generate, hget, generateAnew, hresolve, hrender, hd, if_true, Query.key]

/-- What is rendered anew is rendered with the templates of the engine that was asked. -/
lemma generated_of_generateAnew {output : Output}
    (h : (s.generateAnew disk now request context).result = .ok output) :
    s.engine.store.generated s.engine.renderer request context = .ok output := by
  unfold generateAnew at h
  split at h
  · cases h
  · rename_i resolution hresolve
    dsimp only at h
    split at h
    · cases h
    · rename_i d hd
      obtain ⟨-, hresult⟩ := (s.render_eq_ok_iff disk).mp hd
      cases h
      simp only [Store.generated, hresolve, hresult]

end Session

namespace Fleet

section Answers

variable [Objections] {ι : Type} [DecidableEq ι]

/-- **A shared cache hands out nothing that no engine would render.**  Let anything happen to
engines that share a cache.  Then a document that one of them answers with is what one of them
renders with the templates that it has loaded at that moment. -/
theorem run_generated (engines : ι → Engine) (lifetime : Int) (disk : Disk) (now : Int)
    (actions : List (ι × Action)) (i : ι) (query : Query)
    (hdigest : Digest.CollisionFree
      ((query :: asked (actions.map Prod.snd)).flatMap Query.hashed)) (output : Output) :
    let f := (start engines lifetime disk now).run actions
    ((f.session i).generate f.disk f.now query.request query.context).result = .ok output →
      ∃ j, (f.engines j).store.generated (f.engines j).renderer query.request query.context =
        .ok output := by
  intro f h
  have hcoherent : f.Coherent (asked (actions.map Prod.snd)) :=
    coherent_run (coherent_of_no_entries rfl) actions (List.Subset.refl _)
  rcases (f.session i).generate_cases f.disk f.now query with ⟨e, he, heq⟩ | ⟨cache, -, heq⟩
  · -- an entry is handed out, which some engine has made
    obtain ⟨j, p, hp, hkey, hyields⟩ := hcoherent _ e he
    have hhashed {x : Query} (hx : x ∈ query :: asked (actions.map Prod.snd)) :
        x.hashed ⊆ (query :: asked (actions.map Prod.snd)).flatMap Query.hashed :=
      fun bytes hbytes => List.mem_flatMap.mpr ⟨x, hx, hbytes⟩
    obtain ⟨hrequest, hcontext⟩ := Query.eq_of_key hdigest
      (hhashed (List.mem_cons_of_mem _ hp)) (hhashed List.mem_cons_self) hkey
    rw [heq] at h
    cases h
    exact ⟨j, (hyields.congr hrequest hcontext).generated⟩
  · rw [heq] at h
    exact ⟨i, Session.generated_of_generateAnew h⟩

/-! ## Templates that were replaced -/

/-- **A document of replaced templates.**  One engine loads its templates again, and another one,
which has not, is asked for a query and renders sections.  Then the first one answers the query with
what the second one rendered, whatever it has loaded itself. -/
theorem reload_outdated {f : Fleet ι} {i j : ι} (hne : i ≠ j)
    (hreload : ((f.session i).reload f.disk).result = .ok ()) (hlifetime : 0 < f.cache.lifetime)
    {separator : String} (hrenderer : (f.engines j).renderer = sectionRenderer separator)
    {q : Query} {output : Output}
    (hgenerated : (f.engines j).store.generated (sectionRenderer separator) q.request q.context =
      .ok output) :
    let f' := f.run [(i, .reload), (j, .generate q)]
    f'.engines i = ((f.session i).reload f.disk).session.engine ∧
      ((f'.session i).generate f'.disk f'.now q.request q.context).result = .ok output := by
  intro f'
  have hcache : ((f.session i).reload f.disk).session.cache.entries = [] := by
    rcases (f.session i).reload_cases f.disk with ⟨⟨e, he⟩, -⟩ | ⟨-, hcache, -⟩
    · cases he.symm.trans hreload
    · exact hcache
  -- the other engine is as it was, and fills the cache again
  let f₁ := f.step (i, .reload)
  have hengine : (f₁.session j).engine = f.engines j := Function.update_of_ne hne.symm _ _
  have hgenerate : ((f₁.session j).generate f₁.disk f₁.now q.request q.context).session =
      { f₁.session j with cache := f₁.cache.put f₁.now q.key output } :=
    Session.session_generate_of_generated (hengine ▸ hrenderer) (hengine ▸ hgenerated) hcache
  have hcache' : (f'.session i).cache = f₁.cache.put f₁.now q.key output :=
    congrArg Session.cache hgenerate
  have hlifetime₁ : 0 < f₁.cache.lifetime := by
    have hsame : f₁.cache.lifetime = f.cache.lifetime := (f.session i).reload_lifetime f.disk
    rwa [hsame]
  refine ⟨?_, Session.generate_of_get ?_⟩
  · have hother : f'.engines i = f₁.engines i := Function.update_of_ne hne _ _
    exact hother.trans (Function.update_self _ _ _)
  · rw [hcache']
    exact Cache.get_put hlifetime₁ f₁.now q.key output

end Answers

/-! ## Two engines of one directory -/

attribute [local instance] Objections.terse

/-- A directory with one template, whose only section has a given text. -/
def bugDisk (body : String) (written : Int) : Disk :=
  { top :=
      .directory
        [("tpl",
          .directory
            [("bug.yaml",
              .file
                (some
                  ("platform: jira\ndocumentType: bug\ntechStack: rust\nversion: '1'\n" ++
                    "variables: \x7b\x7d\nsections:\n  - name: S\n    body: " ++ body ++ "\n"))
                written)])],
    working := [] }

/-- That template. -/
def bugTemplate (body : String) : Definition :=
  { identity := .template ⟨"jira", "bug", "rust"⟩, version := "1", description := none,
    sections := [⟨"S", body⟩], schema := [], bases := [], source := "tpl/bug.yaml" }

/-- The store of the directory. -/
def bugStore (body : String) : Store :=
  { templates := [(⟨"jira", "bug", "rust"⟩, bugTemplate body)], fragments := [] }

/-- Whether a store is that one. -/
def isBugStore (body : String) : Store → Bool
  | ⟨[(key, ⟨identity, "1", none, sections, [], [], "tpl/bug.yaml"⟩)], []⟩ =>
    key = ⟨"jira", "bug", "rust"⟩ && identity = .template key && sections = [⟨"S", body⟩]
  | _ => false

/-- An engine that has loaded that directory. -/
def bugEngine (body : String) (origin : Option Origin) : Engine :=
  { Engine.ofLibrary ⟨bugStore body, origin⟩ {} with root := "tpl" }

/-- A query for the template. -/
def bugQuery : Query :=
  { titleQuery .lenient with context := .empty, context_settled := rfl, context_finite := rfl }

/-- What the query is rendered to. -/
def bugOutput (body : String) : Output :=
  ⟨body, "jira/bug/rust@1", ["exact-hit"], [], [⟨"S", body⟩]⟩

lemma eq_of_isBugStore {body : String} {s : Store} (h : isBugStore body s) : s = bugStore body := by
  unfold isBugStore at h
  split at h
  · simp only [Bool.and_eq_true, decide_eq_true_eq] at h
    obtain ⟨⟨rfl, rfl⟩, rfl⟩ := h
    rfl
  · cases h

lemma load_of_isBugStore {body : String} {disk : Disk}
    (h : (Library.load disk "tpl" {}).toOption.any fun l => isBugStore body l.store) :
    ∃ origin, Library.load disk "tpl" {} = .ok ⟨bugStore body, origin⟩ := by
  cases hload : Library.load disk "tpl" {} with
  | error e => simp [hload, Except.toOption] at h
  | ok l =>
      rw [hload] at h
      exact ⟨l.origin, by rw [← eq_of_isBugStore h]⟩

lemma load_before :
    ∃ origin, Library.load (bugDisk "before" 0) "tpl" {} = .ok ⟨bugStore "before", origin⟩ :=
  load_of_isBugStore (by decide +kernel)

lemma load_after :
    ∃ origin, Library.load (bugDisk "after" 1) "tpl" {} = .ok ⟨bugStore "after", origin⟩ :=
  load_of_isBugStore (by decide +kernel)

/-- What the template amounts to: it inherits nothing. -/
def bugMerged (body : String) : MergedTemplate :=
  { id := "jira/bug/rust@1", key := some ⟨"jira", "bug", "rust"⟩, version := "1",
    description := none, sections := [⟨"S", body⟩], schema := [], lineage := [],
    source := "tpl/bug.yaml" }

lemma resolve_bugStore (body : String) :
    (bugStore body).resolve bugQuery.request = .ok ⟨bugMerged body, ["exact-hit"], .exact⟩ := by
  have hmerge : (bugStore body).merge (bugTemplate body) = .ok (bugMerged body) := by
    rw [Store.merge, Definition.merge, bugTemplate, Inheritance.gather]
    rfl
  exact Store.resolve_exact rfl hmerge

lemma generated_before :
    (bugStore "before").generated (sectionRenderer "\n\n") bugQuery.request bugQuery.context =
      .ok (bugOutput "before") := by
  rw [Store.generated, resolve_bugStore]
  rfl

lemma generated_after :
    (bugStore "after").generated (sectionRenderer "\n\n") bugQuery.request bugQuery.context =
      .ok (bugOutput "after") := by
  rw [Store.generated, resolve_bugStore]
  rfl

/-- The first engine loads a changed file again; the second one is asked before it does so, too. -/
def bugActions : List (Bool × Action) :=
  [(true, .write (bugDisk "after" 1)), (true, .reload), (false, .generate bugQuery)]

/-- The first engine has the changed template, and answers with the text of the old one. -/
lemma run_bugActions {origin : Option Origin} :
    let f := (start (fun _ => bugEngine "before" origin) 60000 (bugDisk "before" 0) 0).run
      bugActions
    (f.engines true).store.generated (f.engines true).renderer bugQuery.request
        bugQuery.context = .ok (bugOutput "after") ∧
      ((f.session true).generate f.disk f.now bugQuery.request bugQuery.context).result =
        .ok (bugOutput "before") := by
  intro f
  obtain ⟨origin', hafter⟩ := load_after
  let f₀ := (start (fun _ => bugEngine "before" origin) 60000 (bugDisk "before" 0) 0).step
    (true, .write (bugDisk "after" 1))
  have hrun : f = f₀.run [(true, .reload), (false, .generate bugQuery)] := run_cons _ _ _
  have hsession (i : Bool) : f₀.session i = ⟨bugEngine "before" origin, .empty 60000⟩ := by
    cases i <;> rfl
  have hdisk : f₀.disk = bugDisk "after" 1 := rfl
  obtain ⟨hreload, hloaded⟩ : ((f₀.session true).reload f₀.disk).result = .ok () ∧
      ((f₀.session true).reload f₀.disk).session.engine =
        { bugEngine "before" origin with
          library := ⟨bugStore "after", origin'⟩, generation := 1 } := by
    rw [hsession, hdisk]
    exact Session.reload_ok rfl hafter
  obtain ⟨hengine, hanswer⟩ := reload_outdated (j := false) Bool.false_ne_true.symm hreload
    (by decide : (0 : Int) < 60000) rfl generated_before
  rw [← hrun] at hengine hanswer
  rw [hengine, hloaded]
  exact ⟨generated_after, hanswer⟩

lemma bug_collisionFree : Digest.CollisionFree
    ((bugQuery :: asked (bugActions.map Prod.snd)).flatMap Query.hashed) := by
  have hnodup : (bugQuery.hashed.map Digest.sha256).Nodup := by decide +kernel
  refine (Digest.collisionFree_of_nodup hnodup).mono fun bytes h => ?_
  simpa [bugActions, asked, Action.query?] using h

theorem run_generated_bug :
    ∃ engine, Engine.loadWith (bugDisk "before" 0) "tpl" {} = .ok engine ∧
      Digest.CollisionFree ((bugQuery :: asked (bugActions.map Prod.snd)).flatMap Query.hashed) ∧
      let f := (start (fun _ => engine) 60000 (bugDisk "before" 0) 0).run bugActions
      ((f.session true).generate f.disk f.now bugQuery.request bugQuery.context).result =
          .ok (bugOutput "before") ∧
        ∃ j, (f.engines j).store.generated (f.engines j).renderer bugQuery.request
          bugQuery.context = .ok (bugOutput "before") := by
  obtain ⟨origin, hbefore⟩ := load_before
  refine ⟨bugEngine "before" origin, ?_, bug_collisionFree, run_bugActions.2, ?_⟩
  · rw [Engine.loadWith, hbefore]
    rfl
  · exact run_generated (fun _ => bugEngine "before" origin) 60000 (bugDisk "before" 0) 0
      bugActions true bugQuery bug_collisionFree (bugOutput "before") run_bugActions.2

/-- Two engines of one directory and one configuration: the one that has loaded a changed file again
answers with the text that the file had before. -/
theorem run_outdated :
    ∃ engine, Engine.loadWith (bugDisk "before" 0) "tpl" {} = .ok engine ∧
      let f := (start (fun _ => engine) 60000 (bugDisk "before" 0) 0).run bugActions
      (f.engines true).store.generated (f.engines true).renderer bugQuery.request
          bugQuery.context = .ok (bugOutput "after") ∧
        ((f.session true).generate f.disk f.now bugQuery.request bugQuery.context).result =
          .ok (bugOutput "before") := by
  obtain ⟨origin, hbefore⟩ := load_before
  refine ⟨bugEngine "before" origin, ?_, run_bugActions⟩
  rw [Engine.loadWith, hbefore]
  rfl

end Fleet

end Docket
