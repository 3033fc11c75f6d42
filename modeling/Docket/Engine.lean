import Docket.Cache.Basic
import Docket.Cache.Key
import Docket.Config.Read
import Docket.Resolution
import Docket.Store.Load

/-!
# Engines

An engine holds a library of templates and renders requests. It keeps what it rendered in a cache,
which it may share with other engines.

## Renderers

A renderer turns a merged template and bindings into a document. It may have the templates loaded
again on the way, and go on or give up if that fails.

## Sessions

`Session` is an engine together with the cache it uses at the moment. Each operation takes the state
of the disk and the present time and gives the session after it.

A document is kept only if the engine still has the templates it was rendered from. Loading the
templates again empties the cache; if it fails, nothing changes.
-/

namespace Docket

/-! ## Renderers -/

/-- A renderer's call for the templates to be loaded again. -/
inductive Reload where
  /-- The renderer goes on if loading fails. -/
  | attempted
  /-- The renderer fails if loading fails. -/
  | required
deriving DecidableEq, Repr

/-- The error that a renderer fails with for what came of a load it called for. -/
def Reload.failure? : Reload → Except Error Unit → Option Error
  | required, .error e => some e
  | _, _ => none

/-- What a renderer does with a template and bindings: it has the templates loaded again any number
of times, and comes to a document or an error of its own. -/
structure Rendered where
  reloads : List Reload
  result : Except Error Template.Document

/-- Turns a template and bindings into a document. -/
abbrev Renderer := MergedTemplate → Bindings → Rendered

/-- Renders the sections of a template with a separator between them. -/
def sectionRenderer (separator : String) : Renderer := fun template bindings =>
  ⟨[], Template.renderSections separator template.sections bindings⟩

/-! ## Engines -/

/-- What renders requests. -/
structure Engine where
  /-- The directory that templates are loaded from again; empty if there is none. -/
  root : String
  config : Config
  library : Library
  /-- How often templates have been loaded again. -/
  generation : Nat
  renderer : Renderer

namespace Engine

/-- An engine for a library. -/
def ofLibrary (l : Library) (config : Config) : Engine :=
  ⟨l.root, config, l, 0, sectionRenderer config.separator⟩

/-- An engine for the templates of a directory under given settings. -/
def loadWith [Objections] (disk : Disk) (root : String) (config : Config) : Except Error Engine :=
  match Library.load disk root config with
  | .error e => .error e
  | .ok l => .ok { ofLibrary l config with root := root }

/-- An engine for the templates of a directory under the settings found there. -/
def load [Objections] (disk : Disk) (root : String) : Except Error Engine :=
  match Config.load disk root with
  | .error e => .error e
  | .ok config => loadWith disk root config

/-- The store that requests are resolved in. -/
def store (e : Engine) : Store := e.library.store

/-- A request of the default strictness. -/
def request (e : Engine) (platform documentType techStack : String) : Request :=
  ⟨platform, documentType, techStack, e.config.strictness⟩

end Engine

/-! ## Sessions -/

/-- An engine together with the cache it uses. -/
structure Session where
  engine : Engine
  cache : Cache Output

/-- The result of an operation, the session after it and what there is to tell. -/
structure Step (α : Type) where
  result : α
  session : Session
  events : List Event

namespace Session

variable [Objections]

/-- Loads the templates again. -/
def reload (s : Session) (disk : Disk) : Step (Except Error Unit) :=
  if s.engine.root.isEmpty then ⟨.error .notLoaded, s, []⟩
  else
    match Library.load disk s.engine.root s.engine.config with
    | .error e => ⟨.error e, s, []⟩
    | .ok l =>
      let engine := { s.engine with library := l, generation := s.engine.generation + 1 }
      ⟨.ok (), ⟨engine, s.cache.cleared⟩,
        l.loadEvents ++ [.reloaded engine.root engine.generation]⟩

/-- Whether the template files are no longer those that were loaded. -/
def isStale (s : Session) (disk : Disk) : Except Error Bool := s.engine.library.isStale disk

/-- Loads the templates again if their files have changed, and tells whether they had. -/
def refresh (s : Session) (disk : Disk) : Step (Except Error Bool) :=
  match s.isStale disk with
  | .error e => ⟨.error e, s, []⟩
  | .ok false => ⟨.ok false, s, []⟩
  | .ok true =>
    let r := s.reload disk
    ⟨r.result.map fun _ => true, r.session, r.events⟩

/-- Empties the cache. -/
def invalidate (s : Session) : Session := { s with cache := s.cache.cleared }

/-- Loads the templates again whenever a renderer calls for it; a required load that fails is the
last one. -/
def reloadAll (s : Session) (disk : Disk) : List Reload → Step (Except Error Unit)
  | [] => ⟨.ok (), s, []⟩
  | call :: rest =>
    let r := s.reload disk
    match call.failure? r.result with
    | some e => ⟨.error e, r.session, r.events⟩
    | none =>
      let later := r.session.reloadAll disk rest
      ⟨later.result, later.session, r.events ++ later.events⟩

/-- Renders a template for a context, and loads the templates again as the renderer calls for it. -/
def render (s : Session) (disk : Disk) (template : MergedTemplate) (context : Context)
    (strictness : Strictness) : Step (Except Error Template.Document) :=
  let rendered :=
    s.engine.renderer template (Bindings.bind context.value template.schema strictness)
  let r := s.reloadAll disk rendered.reloads
  match r.result with
  | .error e => ⟨.error e, r.session, r.events⟩
  | .ok _ => ⟨rendered.result, r.session, r.events⟩

/-- Puts the built-in template in the place of one that failed, if the settings want that. -/
def degrade (s : Session) (disk : Disk) (f : Failure) (context : Context) : Step Failure :=
  if !s.engine.config.degradedFallback then ⟨f, s, []⟩
  else
    let r := s.render disk builtinTemplate context .lenient
    match r.result with
    | .ok d =>
      let path := f.path ++ [FallbackStep.builtin.hit]
      ⟨{ f with degraded := some (d.output builtinTemplate.id path) }, r.session,
        .fallingBack f.message :: r.events⟩
    | .error e => ⟨f, r.session, .fallingBack f.message :: (r.events ++ [.fallbackFailed e])⟩

/-- Takes a failure to its end. -/
def fail (s : Session) (disk : Disk) (f : Failure) (context : Context) (before : List Event) :
    Step (Except Failure Output) :=
  let r := s.degrade disk f context
  ⟨.error r.result, r.session, before ++ r.events⟩

/-- Resolves and renders a request whose document is not in the cache. -/
def generateAnew (s : Session) (disk : Disk) (now : Int) (request : Request) (context : Context) :
    Step (Except Failure Output) :=
  match s.engine.store.resolve request with
  | .error f => s.fail disk f context []
  | .ok resolution =>
    let r := s.render disk resolution.template context request.strictness
    match r.result with
    | .error e =>
      r.session.fail disk ⟨e, resolution.template.id, resolution.path, none⟩ context r.events
    | .ok d =>
      let output := d.output resolution.template.id resolution.path
      let key := Cache.key request context
      let cache :=
        if r.session.engine.generation = s.engine.generation then
          r.session.cache.put now key output
        else r.session.cache
      ⟨.ok output, { r.session with cache := cache }, r.events⟩

/-- The document for a request and a context, from the cache if it is there. -/
def generate (s : Session) (disk : Disk) (now : Int) (request : Request) (context : Context) :
    Step (Except Failure Output) :=
  match s.cache.get now (Cache.key request context) with
  | (some output, cache) => ⟨.ok output, { s with cache := cache }, []⟩
  | (none, cache) => generateAnew { s with cache := cache } disk now request context

end Session

end Docket
