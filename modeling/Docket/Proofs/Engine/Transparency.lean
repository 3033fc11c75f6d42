import Docket.Proofs.Cache.Key
import Docket.Proofs.Engine.Session
import Docket.Proofs.Generation.Basic

/-!
# A cache cannot be noticed

An engine that has a cache to itself answers as if it had none.  `World` is such an engine with the
files and the clock, `Action` is everything that can happen to it, and `World.run` lets a list of
actions happen, in order.

The invariant is `Session.Coherent`: each entry is what one of the queries that were asked for is
rendered to with the templates that are loaded now, by a renderer that comes to its document however
loading goes.  A document whose renderer requires the templates to be loaded again is never kept,
since either that fails, and then so does rendering, or the generation moves on and the cache is
emptied.  `Session.Keeps` says so once for all operations.

Loading again empties the cache, so entries never outlive their templates.  What remains is that an
entry is handed out for the query it was made from, which is where keys have to tell queries apart.
-/

namespace Docket

/-! ## Worlds -/

/-- An engine at work: its session, the files and the time. -/
structure World where
  session : Session
  disk : Disk
  now : Int

/-- What can happen to an engine at work. -/
inductive Action where
  /-- A query is asked for. -/
  | generate (q : Query)
  /-- The templates are loaded again. -/
  | reload
  /-- The templates are loaded again if their files have changed. -/
  | refresh
  /-- The cache is emptied. -/
  | invalidate
  /-- Dead entries leave the cache. -/
  | purge
  /-- The files become others. -/
  | write (disk : Disk)
  /-- Time passes. -/
  | wait (elapsed : Int)

namespace World

/-- An engine whose cache is empty. -/
def start (engine : Engine) (lifetime : Int) (disk : Disk) (now : Int) : World :=
  ⟨⟨engine, .empty lifetime⟩, disk, now⟩

variable [Objections]

/-- The world after one action. -/
def step (w : World) : Action → World
  | .generate q =>
    { w with session := (w.session.generate w.disk w.now q.request q.context).session }
  | .reload => { w with session := (w.session.reload w.disk).session }
  | .refresh => { w with session := (w.session.refresh w.disk).session }
  | .invalidate => { w with session := w.session.invalidate }
  | .purge => { w with session := { w.session with cache := (w.session.cache.purge w.now).2 } }
  | .write disk => { w with disk := disk }
  | .wait elapsed => { w with now := w.now + elapsed }

/-- The world after a list of actions. -/
def run (w : World) (actions : List Action) : World := actions.foldl step w

end World

/-- The query that an action asks for. -/
def Action.query? : Action → Option Query
  | generate q => some q
  | _ => none

/-- The queries that a list of actions asks for. -/
def asked (actions : List Action) : List Query := actions.filterMap Action.query?

lemma asked_cons_subset {action : Action} {rest : List Action} {queries : List Query}
    (h : asked (action :: rest) ⊆ queries) :
    (∀ q ∈ action.query?, q ∈ queries) ∧ asked rest ⊆ queries := by
  refine ⟨fun q hq => ?_, fun q hq => ?_⟩
  · exact h (List.mem_filterMap.mpr ⟨action, List.mem_cons_self, hq⟩)
  · obtain ⟨a, ha, hqa⟩ := List.mem_filterMap.mp hq
    exact h (List.mem_filterMap.mpr ⟨a, List.mem_cons_of_mem _ ha, hqa⟩)

/-! ## Entries of a cache -/

namespace Cache

variable {α : Type} (c : Cache α) (now : Int) (key : String)

/-- A living entry is handed out as it is; otherwise entries can only leave. -/
lemma get_cases :
    (∃ e, (key, e) ∈ c.entries ∧ c.get now key = (some e.output, c)) ∨
      ((c.get now key).1 = none ∧ (c.get now key).2.entries ⊆ c.entries) := by
  rw [get]
  split
  · rename_i e he
    split
    · exact .inr ⟨rfl, List.filter_subset_self _⟩
    · exact .inl ⟨e, mem_of_lookup he, rfl⟩
  · exact .inr ⟨rfl, List.Subset.refl _⟩

/-- A new entry comes in, others can only leave. -/
lemma put_subset (output : α) :
    (c.put now key output).entries ⊆ (key, ⟨output, now, c.lifetime⟩) :: c.entries :=
  List.cons_subset_cons _ fun _ h =>
    List.filter_subset_self _ (List.filter_subset_self _ h)

end Cache

/-- A query is answered with an entry of the cache, or anew by the same engine with a cache that has
lost entries at most. -/
lemma Session.generate_cases [Objections] (s : Session) (disk : Disk) (now : Int) (q : Query) :
    (∃ e, (q.key, e) ∈ s.cache.entries ∧
        s.generate disk now q.request q.context = ⟨.ok e.output, s, []⟩) ∨
      ∃ cache : Cache Output, cache.entries ⊆ s.cache.entries ∧
        s.generate disk now q.request q.context =
          generateAnew { s with cache := cache } disk now q.request q.context := by
  rcases s.cache.get_cases now q.key with ⟨e, he, hget⟩ | ⟨hnone, hsub⟩
  · refine .inl ⟨e, he, ?_⟩
    rw [Query.key] at hget
    rw [generate, hget]
  · refine .inr ⟨(s.cache.get now q.key).2, hsub, ?_⟩
    have hget : s.cache.get now (Cache.key q.request q.context) =
        (none, (s.cache.get now q.key).2) := Prod.ext hnone rfl
    rw [generate, hget]

/-! ## Coherent sessions -/

/-- A renderer comes to a document, and no load that fails keeps it from that. -/
def Rendered.Settles (r : Rendered) (d : Template.Document) : Prop :=
  r.result = .ok d ∧ ∀ call ∈ r.reloads, call = .attempted

namespace Session

/-- What a query is rendered to with the templates of a session, by a renderer that comes to its
document however loading goes. -/
def Yields (s : Session) (q : Query) (output : Output) : Prop :=
  ∃ resolution d, s.engine.store.resolve q.request = .ok resolution ∧
    (s.engine.renderer resolution.template
      (Bindings.bind q.context.value resolution.template.schema q.request.strictness)).Settles d ∧
    output = d.output resolution.template.id resolution.path

/-- Every entry of the cache is what a query of the list, with that key, is rendered to with the
templates that are loaded now. -/
def Coherent (s : Session) (queries : List Query) : Prop :=
  ∀ key e, (key, e) ∈ s.cache.entries → ∃ q ∈ queries, q.key = key ∧ s.Yields q e.output

variable {s s' : Session} {queries : List Query} {q : Query} {output : Output}

lemma Yields.generated (h : s.Yields q output) :
    s.engine.store.generated s.engine.renderer q.request q.context = .ok output := by
  obtain ⟨resolution, d, hresolve, ⟨hresult, -⟩, rfl⟩ := h
  simp only [Store.generated, hresolve, hresult]

/-- A query that loading cannot keep from its document comes out so when it is asked for. -/
lemma Yields.generateAnew [Objections] (h : s.Yields q output) (disk : Disk) (now : Int) :
    (s.generateAnew disk now q.request q.context).result = .ok output := by
  obtain ⟨resolution, d, hresolve, ⟨hresult, hattempted⟩, rfl⟩ := h
  have hrender := (s.render_eq_ok_iff disk).mpr ⟨s.reloadAll_of_attempted disk hattempted, hresult⟩
  simp only [Session.generateAnew, hresolve, hrender]

lemma Yields.congr {p : Query} (h : s.Yields p output) (hrequest : p.request = q.request)
    (hcontext : p.context = q.context) : s.Yields q output := by
  rwa [Yields, hrequest, hcontext] at h

lemma coherent_of_no_entries (h : s.cache.entries = []) : s.Coherent queries := by
  intro key e he
  rw [h] at he
  cases he

end Session

/-! ## What an operation keeps -/

namespace Session

/-- What an operation may leave in the cache: nothing; or, by an engine that is as it was, entries
that were there and what the query yields that was asked for. -/
inductive Keeps (s : Session) (query : Option Query) : Session → Prop
  | emptied {s' : Session} (cache : s'.cache.entries = []) : Keeps s query s'
  | kept {s' : Session} (engine : s'.engine = s.engine)
      (entries : ∀ key e, (key, e) ∈ s'.cache.entries →
        (key, e) ∈ s.cache.entries ∨ ∃ q ∈ query, q.key = key ∧ s.Yields q e.output) :
      Keeps s query s'

variable {s s' : Session} {queries : List Query} {query : Option Query} {q : Query}
  {output : Output}

lemma keeps_of_subset (hengine : s'.engine = s.engine)
    (hentries : s'.cache.entries ⊆ s.cache.entries) : s.Keeps query s' :=
  .kept hengine fun _ _ he => .inl (hentries he)

/-- Loading templates again leaves nothing in the cache. -/
lemma Reloads.keeps (h : s.Reloads s') : s.Keeps query s' := by
  cases h with
  | unchanged => exact keeps_of_subset rfl (List.Subset.refl _)
  | reloaded _ hcache => exact .emptied hcache

lemma Yields.keeps_put (h : s.Yields q output) (now : Int) :
    s.Keeps (some q) { s with cache := s.cache.put now q.key output } := by
  refine .kept rfl fun key e he => ?_
  rcases List.mem_cons.mp (s.cache.put_subset now q.key output he) with heq | he
  · cases heq
    exact .inr ⟨q, rfl, rfl, h⟩
  · exact .inl he

/-- Entries that leave before an operation are not there after it. -/
lemma Keeps.of_cache {cache : Cache Output} (hsub : cache.entries ⊆ s.cache.entries)
    (h : Keeps { s with cache := cache } query s') : s.Keeps query s' := by
  cases h with
  | emptied hcache => exact .emptied hcache
  | kept hengine hentries =>
      exact .kept hengine fun key e he => (hentries key e he).imp_left fun h => hsub h

/-- A document that comes out while the generation stays is one that loading cannot keep away. -/
lemma settles_of_render [Objections] {disk : Disk} {template : MergedTemplate} {context : Context}
    {strictness : Strictness} {d : Template.Document}
    (h : (s.render disk template context strictness).result = .ok d)
    (hgeneration : (s.render disk template context strictness).session.engine.generation =
      s.engine.generation) :
    (s.engine.renderer template
      (Bindings.bind context.value template.schema strictness)).Settles d := by
  obtain ⟨hloaded, hresult⟩ := (s.render_eq_ok_iff disk).mp h
  rw [render_session] at hgeneration
  exact ⟨hresult, s.attempted_of_reloadAll disk hloaded hgeneration⟩

/-- A document that is rendered anew is kept only if it is what its query yields. -/
lemma generateAnew_keeps [Objections] (s : Session) (disk : Disk) (now : Int) (q : Query) :
    s.Keeps (some q) (s.generateAnew disk now q.request q.context).session := by
  rw [generateAnew]
  split
  · exact (s.fail_reloads disk q.context _ []).keeps
  · rename_i resolution hresolve
    have hreloads :=
      s.render_reloads disk resolution.template q.context q.request.strictness
    dsimp only
    split
    · exact (hreloads.trans (fail_reloads _ disk q.context _ _)).keeps
    · rename_i d hd
      split
      · rename_i hgeneration
        have hyields : s.Yields q (d.output resolution.template.id resolution.path) :=
          ⟨resolution, d, hresolve, settles_of_render hd hgeneration, rfl⟩
        rw [hreloads.eq_of_generation hgeneration]
        exact hyields.keeps_put now
      · exact hreloads.keeps

lemma generate_keeps [Objections] (s : Session) (disk : Disk) (now : Int) (q : Query) :
    s.Keeps (some q) (s.generate disk now q.request q.context).session := by
  rcases s.generate_cases disk now q with ⟨e, -, heq⟩ | ⟨cache, hsub, heq⟩
  · rw [heq]
    exact keeps_of_subset rfl (List.Subset.refl _)
  · rw [heq]
    exact (generateAnew_keeps _ disk now q).of_cache hsub

/-- What an operation keeps is coherent if what was there is. -/
lemma Coherent.keeps (h : s.Coherent queries) (hkeeps : s.Keeps query s')
    (hquery : ∀ q ∈ query, q ∈ queries) : s'.Coherent queries := by
  cases hkeeps with
  | emptied hcache => exact coherent_of_no_entries hcache
  | kept hengine hentries =>
      intro key e he
      have hyields : ∃ q ∈ queries, q.key = key ∧ s.Yields q e.output := by
        rcases hentries key e he with he | ⟨q, hq, hkey, hyields⟩
        · exact h key e he
        · exact ⟨q, hquery q hq, hkey, hyields⟩
      simpa only [Yields, hengine] using hyields

end Session

namespace World

variable [Objections]

/-- Every action keeps what is there, or what the query yields that it asks for. -/
lemma step_keeps (w : World) (action : Action) :
    w.session.Keeps action.query? (w.step action).session := by
  cases action with
  | generate q => exact w.session.generate_keeps w.disk w.now q
  | reload => exact (w.session.reload_reloads w.disk).keeps
  | refresh => exact (w.session.refresh_reloads w.disk).keeps
  | invalidate => exact .emptied rfl
  | purge => exact Session.keeps_of_subset rfl (List.filter_subset_self _)
  | write disk => exact Session.keeps_of_subset rfl (List.Subset.refl _)
  | wait elapsed => exact Session.keeps_of_subset rfl (List.Subset.refl _)

end World

/-! ## Runs -/

section Runs

variable [Objections]

namespace World

/-- Every action keeps the cache coherent, for the queries so far and the one it asks for. -/
lemma coherent_step {w : World} {queries : List Query} (h : w.session.Coherent queries)
    (action : Action) (hquery : ∀ q ∈ action.query?, q ∈ queries) :
    (w.step action).session.Coherent queries :=
  h.keeps (w.step_keeps action) hquery

/-- A run keeps the cache coherent. -/
lemma coherent_run {w : World} {queries : List Query} (h : w.session.Coherent queries)
    (actions : List Action) (hasked : asked actions ⊆ queries) :
    (w.run actions).session.Coherent queries := by
  induction actions generalizing w with
  | nil => exact h
  | cons action rest ih =>
      obtain ⟨hquery, hrest⟩ := asked_cons_subset hasked
      exact ih (coherent_step h action hquery) hrest

end World

/-- In a coherent session a query is answered as if the cache were empty. -/
lemma Session.Coherent.result_eq {s : Session} {queries : List Query} (h : s.Coherent queries)
    {q : Query} (hkeys : ∀ p ∈ queries, p.key = q.key → p.request = q.request ∧
      p.context = q.context) (disk : Disk) (now : Int) :
    (s.generate disk now q.request q.context).result =
      (s.invalidate.generate disk now q.request q.context).result := by
  have hempty : s.invalidate.generate disk now q.request q.context =
      s.invalidate.generateAnew disk now q.request q.context := rfl
  have halike (s' : Session) (hengine : s'.engine = s.invalidate.engine) :
      (s'.generateAnew disk now q.request q.context).result =
        (s.invalidate.generateAnew disk now q.request q.context).result :=
    (Session.generateAnew_alike disk hengine now q.request q.context).result
  rw [hempty]
  rcases s.generate_cases disk now q with ⟨e, he, heq⟩ | ⟨cache, -, heq⟩
  · obtain ⟨p, hp, hkey, hyields⟩ := h _ e he
    obtain ⟨hrequest, hcontext⟩ := hkeys p hp hkey
    have hanew := (hyields.congr hrequest hcontext).generateAnew disk now
    rw [heq]
    exact hanew.symm.trans (halike s rfl)
  · rw [heq]
    exact halike _ rfl

/-- **A cache cannot be noticed.**  Let anything happen to an engine that has a cache to itself.
Then every entry of the cache stands under the key of a query that was asked for, and holds what the
queries of that key are rendered to with the templates that are loaded at that moment.  The next
query, whatever it is, is answered exactly as it would be with an empty cache. -/
theorem World.run_transparent (engine : Engine) (lifetime : Int) (disk : Disk) (now : Int)
    (actions : List Action) (query : Query)
    (hdigest : Digest.CollisionFree ((query :: asked actions).flatMap Query.hashed)) :
    let w := (World.start engine lifetime disk now).run actions
    (∀ key e, (key, e) ∈ w.session.cache.entries →
      (∃ q ∈ asked actions, q.key = key) ∧
        ∀ q ∈ query :: asked actions, q.key = key →
          w.session.engine.store.generated w.session.engine.renderer q.request q.context =
            .ok e.output) ∧
      (w.session.generate w.disk w.now query.request query.context).result =
        (w.session.invalidate.generate w.disk w.now query.request query.context).result := by
  intro w
  have hcoherent : w.session.Coherent (asked actions) :=
    coherent_run (Session.coherent_of_no_entries rfl) actions (List.Subset.refl _)
  have hkeys : ∀ p ∈ asked actions, ∀ q ∈ query :: asked actions, p.key = q.key →
      p.request = q.request ∧ p.context = q.context := by
    intro p hp q hq hkey
    have hhashed (x : Query) (hx : x ∈ query :: asked actions) :
        x.hashed ⊆ (query :: asked actions).flatMap Query.hashed :=
      fun bytes hbytes => List.mem_flatMap.mpr ⟨x, hx, hbytes⟩
    exact Query.eq_of_key hdigest (hhashed p (List.mem_cons_of_mem _ hp)) (hhashed q hq) hkey
  refine ⟨fun key e he => ?_, ?_⟩
  · obtain ⟨p, hp, hpkey, hyields⟩ := hcoherent key e he
    refine ⟨⟨p, hp, hpkey⟩, fun q hq hqkey => ?_⟩
    obtain ⟨hrequest, hcontext⟩ := hkeys p hp q hq (hpkey.trans hqkey.symm)
    exact (hyields.congr hrequest hcontext).generated
  · exact hcoherent.result_eq (fun p hp => hkeys p hp query List.mem_cons_self) w.disk w.now

end Runs

/-! ## An engine with one template -/

attribute [local instance] Objections.terse

/-- An engine whose template prints the title of a context. -/
def titleEngine : Engine :=
  .ofLibrary
    (.ofStore
      { templates :=
          [(⟨"jira", "bug", "rust"⟩,
            { identity := .template ⟨"jira", "bug", "rust"⟩, version := "1", description := none,
              sections := [⟨"Summary", "{{ title }}"⟩], schema := [], bases := [],
              source := "bug.yaml" })],
        fragments := [] })
    {}

/-- A query for that template. -/
def titleQuery (strictness : Strictness) : Query where
  request := ⟨"jira", "bug", "rust", strictness⟩
  context := ⟨[("title", .text "crash")]⟩
  platform_frameable := show Cache.Frameable "jira" by decide
  documentType_frameable := show Cache.Frameable "bug" by decide
  techStack_frameable := show Cache.Frameable "rust" by decide
  context_settled := rfl
  context_finite := by decide

/-- Two queries while time passes, and an attempt to load templates that are in no file. -/
def titleActions : List Action :=
  [.generate (titleQuery .lenient), .wait 1000, .generate (titleQuery .strict), .purge, .reload]

lemma title_collisionFree : Digest.CollisionFree
    ((titleQuery .lenient :: asked titleActions).flatMap Query.hashed) := by
  have hnodup : ([(titleQuery .lenient).context.bytes,
      Cache.keyBytes (titleQuery .lenient).request (titleQuery .lenient).context,
      Cache.keyBytes (titleQuery .strict).request (titleQuery .strict).context].map
        Digest.sha256).Nodup := by
    decide +kernel
  refine (Digest.collisionFree_of_nodup hnodup).mono fun bytes h => ?_
  simp only [titleActions, asked, Action.query?, List.filterMap_cons, List.filterMap_nil,
    List.flatMap_cons, List.flatMap_nil, Query.hashed, List.mem_append, List.mem_cons,
    List.not_mem_nil, or_false] at h
  simp only [List.mem_cons, List.not_mem_nil, or_false]
  rcases h with (h | h) | (h | h) | h | h
  · exact .inl h
  · exact .inr (.inl h)
  · exact .inl h
  · exact .inr (.inl h)
  · exact .inl h
  · exact .inr (.inr h)

theorem World.run_transparent_title :
    Digest.CollisionFree ((titleQuery .lenient :: asked titleActions).flatMap Query.hashed) ∧
      let w := (World.start titleEngine 60000 ⟨.emptyDirectory, []⟩ 0).run titleActions
      (∀ key e, (key, e) ∈ w.session.cache.entries →
        (∃ q ∈ asked titleActions, q.key = key) ∧
          ∀ q ∈ titleQuery .lenient :: asked titleActions, q.key = key →
            w.session.engine.store.generated w.session.engine.renderer q.request q.context =
              .ok e.output) ∧
        (w.session.generate w.disk w.now (titleQuery .lenient).request
            (titleQuery .lenient).context).result =
          (w.session.invalidate.generate w.disk w.now (titleQuery .lenient).request
            (titleQuery .lenient).context).result :=
  ⟨title_collisionFree,
    World.run_transparent titleEngine 60000 ⟨.emptyDirectory, []⟩ 0 titleActions
      (titleQuery .lenient) title_collisionFree⟩

end Docket
