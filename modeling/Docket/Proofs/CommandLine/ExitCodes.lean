import Docket.CommandLine.Run
import Docket.Proofs.Generation.Causes
import Docket.Proofs.Generation.LastResort
import Docket.Proofs.Validation.Agreement

/-!
# Exit codes tell what failed

A command that generates a document goes through stages: it loads the settings and the templates,
reads the context, generates, and hands the document out.  Scripts tell from the exit code whether
the generation itself failed.

The causes of the other stages are never among those of a generation (`Config.isRender_of_load`,
`Library.isRender_of_load`, `isRender_of_readContext`), although definitions are merged while
templates are loaded: what comes out then is only told.  The causes of a generation all are
(`Store.isRender_of_generated`).

A command is either kept from generating (`Prevented`) or its engine comes to a result
(`Generates`), and it does one of the two only.  `CommandLine.Classified` says what the exit code
tells about that, and `CommandLine.generation_classified` that it holds of every run.
-/

namespace Docket

variable {e : Error} {disk : Disk} {root : String}

/-! ## Loading -/

namespace Config

lemma isRender_of_ofContentOf {wording : Wording} {malformed : String → Error} {c : Content}
    (hmalformed : ∀ problem, (malformed problem).isRender = false)
    (h : ofContentOf wording malformed c = .error e) : e.isRender = false := by
  rw [ofContentOf] at h
  split at h <;> cases h
  exact hmalformed _

lemma isRender_of_check {c : Config} (h : c.check = .error e) : e.isRender = false := by
  rw [check] at h
  split at h
  · cases h
    rfl
  · split at h
    · cases h
      rfl
    · split at h <;> cases h
      rfl

variable [Objections]

lemma isRender_of_readDocument {file text : String} (h : readDocument file text = .error e) :
    e.isRender = false := by
  simp only [readDocument] at h
  split at h
  · cases h
    rfl
  · cases h
    rfl
  · split at h
    · cases h
      rfl
    · split at h
      · cases h
        rfl
      · exact isRender_of_ofContentOf (fun _ => rfl) h

lemma isRender_malformedData (file text problem : String) :
    (malformedData file text problem).isRender = false := by
  rw [malformedData]
  split <;> rfl

lemma isRender_of_readData {file text : String} (h : readData file text = .error e) :
    e.isRender = false := by
  rw [readData] at h
  split at h
  · cases h
    rfl
  · split at h
    · cases h
      exact isRender_malformedData file text _
    · exact isRender_of_ofContentOf (isRender_malformedData file text) h

lemma isRender_of_readFirst {names : List (String × Bool)}
    (h : readFirst disk root names = .error e) : e.isRender = false := by
  induction names with
  | nil => cases h
  | cons name rest ih =>
      simp only [readFirst] at h
      split at h
      · split at h
        · cases h
          rfl
        · split at h
          · exact isRender_of_readData h
          · exact isRender_of_readDocument h
      · exact ih h

lemma isRender_of_load (h : load disk root = .error e) : e.isRender = false := by
  rw [load] at h
  split at h
  · rename_i hread
    cases h
    exact isRender_of_readFirst hread
  · split at h
    · rename_i hcheck
      cases h
      exact isRender_of_check hcheck
    · cases h

end Config

namespace Library

variable [Objections]

lemma isRender_of_storeOf {files : List FoundFile} (h : storeOf files = .error e) :
    e.isRender = false := by
  rw [storeOf] at h
  split at h
  · rename_i hread
    cases h
    obtain ⟨f, _, _, hf, _⟩ := Validation.readAll_of_error hread
    rcases Validation.definition_cases f with ⟨_, he, _⟩ | ⟨_, he⟩ | ⟨_, _, _, he⟩ <;>
      rw [hf] at he <;> cases he <;> rfl
  · rename_i hread
    obtain ⟨_, _, _, _, rfl, _⟩ := Validation.problems_of_repeated hread h
    rfl

lemma isRender_of_load {config : Config} (h : load disk root config = .error e) :
    e.isRender = false := by
  cases hroot : disk.isDirectory root with
  | false =>
      simp only [load, hroot, Bool.not_false, if_true] at h
      cases h
      rfl
  | true =>
      rcases Validation.load_of_isDirectory config hroot with
        ⟨e', hfiles, hload⟩ | ⟨files, -, ⟨e', hstore, hload⟩ | ⟨library, -, hload⟩⟩ <;>
        rw [hload] at h <;> cases h
      · rcases Validation.templateFiles_error hfiles with ⟨_, rfl⟩ | ⟨_, rfl⟩ <;> rfl
      · exact isRender_of_storeOf hstore

end Library

/-- A loaded engine renders sections. -/
lemma Engine.renderer_of_load [Objections] {engine : Engine} (h : load disk root = .ok engine) :
    engine.renderer = sectionRenderer engine.config.separator := by
  rw [load] at h
  split at h
  · cases h
  · rw [loadWith] at h
    split at h <;> cases h
    rfl

/-! ## Events -/

lemma Library.wrote_notMem_loadEvents (l : Library) (location : String) :
    Event.wrote location ∉ l.loadEvents := by
  simp [loadEvents, Store.complaints]

namespace Session

variable [Objections] {s : Session} {separator : String}
  (h : s.engine.renderer = sectionRenderer separator) (disk : Disk) (location : String)

include h

lemma wrote_notMem_fail (f : Failure) (context : Context) :
    Event.wrote location ∉ (s.fail disk f context []).events := by
  simp only [fail, degrade, render_sections h]
  split
  · simp
  · split <;> simp

/-- Generating writes no files. -/
lemma wrote_notMem_generate (now : Int) (request : Request) (context : Context) :
    Event.wrote location ∉ (s.generate disk now request context).events := by
  rw [generate]
  split
  · simp
  · rename_i cache _
    have hcache : ({ s with cache := cache } : Session).engine.renderer =
        sectionRenderer separator := h
    rw [generateAnew]
    split
    · exact wrote_notMem_fail hcache disk location _ context
    · simp only [render_sections hcache]
      split
      · exact wrote_notMem_fail hcache disk location _ context
      · simp

end Session

/-! ## Reading the context -/

namespace Context

lemma isRender_of_ofValue {v : Value} (h : ofValue v = .error e) : e.isRender = false := by
  cases v <;> cases h <;> rfl

variable [Objections]

lemma isRender_of_readDocument {text : String} (h : readDocument text = .error e) :
    e.isRender = false := by
  rw [readDocument] at h
  split at h
  · cases h
  · split at h
    · exact isRender_of_ofValue h
    · cases h
      rfl

lemma isRender_of_readData {text : String} (h : readData text = .error e) :
    e.isRender = false := by
  rw [readData] at h
  split at h
  · cases h
  · split at h
    · exact isRender_of_ofValue h
    · cases h
      rfl

end Context

namespace CommandLine

variable {s : Situation} {options : GenerateOptions}

lemma isRender_of_readContext [Objections] {location : Option String}
    (h : readContext s location = .error e) : e.isRender = false := by
  cases location with
  | none => cases h
  | some location =>
      rw [readContext] at h
      split at h
      · rename_i htext
        cases h
        rw [inputText] at htext
        split at htext <;> cases htext
        rfl
      · split at h
        · exact Context.isRender_of_readDocument h
        · exact Context.isRender_of_readData h

/-! ## Handing out -/

/-- A document can be handed out: it goes to the standard output, or its file can be written. -/
def CanHandOut (s : Situation) (options : GenerateOptions) (o : Output) : Prop :=
  ∀ location, options.output = some location →
    ∃ disk, s.disk.write location (formatted options.format o) s.time = .ok disk

lemma handOut_result {o : Output} (h : CanHandOut s options o) :
    (handOut s options o).result = .ok () := by
  rw [handOut]
  cases hlocation : options.output with
  | none => rfl
  | some location =>
      obtain ⟨disk, hdisk⟩ := h location hlocation
      simp only [hdisk]

lemma handOut_fault {o : Output} (h : ¬ CanHandOut s options o) :
    ∃ fault, (handOut s options o).result = .error (.other (.file fault)) := by
  rw [CanHandOut, not_forall] at h
  obtain ⟨location, hnot⟩ := h
  obtain ⟨hlocation, hdisk⟩ := Classical.not_imp.mp hnot
  rw [handOut]
  cases hwrite : s.disk.write location (formatted options.format o) s.time with
  | ok disk => exact absurd ⟨disk, hwrite⟩ hdisk
  | error fault => exact ⟨fault, by simp only [hlocation, hwrite]; rfl⟩

/-- How a command ends that has generated a document. -/
lemma exitCode_finish_ok (s : Situation) (options : GenerateOptions) (events : List Event)
    (o : Output) :
    (CanHandOut s options o → (finish s options events (.ok o)).exitCode = 0) ∧
      (¬ CanHandOut s options o → (finish s options events (.ok o)).exitCode = 1) := by
  refine ⟨fun h => ?_, fun h => ?_⟩
  · have hresult := handOut_result h
    simp only [finish, Outcome.exitCode, hresult]
  · obtain ⟨fault, hresult⟩ := handOut_fault h
    simp only [finish, Outcome.exitCode, hresult]
    rfl

/-- How a command ends whose generation has failed. -/
lemma exitCode_finish_error (s : Situation) (options : GenerateOptions) (events : List Event)
    (f : Failure) :
    ((∀ o, f.degraded = some o → CanHandOut s options o) →
        (finish s options events (.error f)).exitCode = f.exitCode) ∧
      ∀ o, f.degraded = some o → ¬ CanHandOut s options o →
        (finish s options events (.error f)).exitCode = 1 := by
  refine ⟨fun h => ?_, fun o ho h => ?_⟩
  · cases hdegraded : f.degraded with
    | none =>
        simp only [finish, hdegraded]
        rfl
    | some o =>
        have hresult := handOut_result (h o hdegraded)
        simp only [finish, hdegraded, Outcome.exitCode, hresult]
        rfl
  · obtain ⟨fault, hresult⟩ := handOut_fault h
    simp only [finish, ho, Outcome.exitCode, hresult]
    rfl

/-! ## Stages -/

variable [Objections]

/-- The settings, the templates or the context keep a command from generating. -/
inductive Prevented (s : Situation) (root : String) (options : GenerateOptions) : Error → Prop
  | settings {e : Error} (h : Config.load s.disk root = .error e) : Prevented s root options e
  | templates {config : Config} {e : Error} (hconfig : Config.load s.disk root = .ok config)
      (h : Library.load s.disk root config = .error e) : Prevented s root options e
  | context {engine : Engine} {e : Error} (hengine : Engine.load s.disk root = .ok engine)
      (h : readContext s options.context = .error e) : Prevented s root options e

/-- A command gets as far as generating, and its engine comes to a result. -/
def Generates (s : Situation) (root : String) (options : GenerateOptions)
    (result : Except Failure Output) : Prop :=
  ∃ engine context, Engine.load s.disk root = .ok engine ∧
    readContext s options.context = .ok context ∧
    (Session.generate ⟨engine, Cache.withSeconds engine.config.cacheSeconds⟩ s.disk
      (1000 * s.time) (requestOf options engine.config) context).result = result

/-- A command has a document to hand out: the one that was generated, or what stands in for it. -/
def Emits (s : Situation) (root : String) (options : GenerateOptions) (o : Output) : Prop :=
  Generates s root options (.ok o) ∨
    ∃ f, Generates s root options (.error f) ∧ f.degraded = some o

variable {result : Except Failure Output}

lemma engine_load_error :
    Engine.load disk root = .error e ↔
      Config.load disk root = .error e ∨
        ∃ config, Config.load disk root = .ok config ∧
          Library.load disk root config = .error e := by
  rw [Engine.load]
  cases Config.load disk root with
  | error e' => simp
  | ok config =>
      simp only [Engine.loadWith]
      cases hlibrary : Library.load disk root config <;> simp [hlibrary]

/-- Either something keeps a command from generating, or it comes to a result. -/
lemma prevented_or_generates (s : Situation) (root : String) (options : GenerateOptions) :
    (∃ e, Prevented s root options e) ∨ ∃ result, Generates s root options result := by
  cases hengine : Engine.load s.disk root with
  | error e =>
      rcases engine_load_error.mp hengine with hconfig | ⟨config, hconfig, hlibrary⟩
      · exact .inl ⟨e, .settings hconfig⟩
      · exact .inl ⟨e, .templates hconfig hlibrary⟩
  | ok engine =>
      cases hcontext : readContext s options.context with
      | error e => exact .inl ⟨e, .context hengine hcontext⟩
      | ok context => exact .inr ⟨_, engine, context, hengine, hcontext, rfl⟩

lemma Generates.unique {result' : Except Failure Output} (h : Generates s root options result)
    (h' : Generates s root options result') : result = result' := by
  obtain ⟨engine, context, hengine, hcontext, rfl⟩ := h
  obtain ⟨engine', context', hengine', hcontext', rfl⟩ := h'
  cases hengine.symm.trans hengine'
  cases hcontext.symm.trans hcontext'
  rfl

lemma Generates.iff_eq {result' : Except Failure Output} (h : Generates s root options result) :
    Generates s root options result' ↔ result' = result :=
  ⟨fun h' => h'.unique h, fun heq => heq ▸ h⟩

lemma Generates.not_prevented (h : Generates s root options result) :
    ¬ Prevented s root options e := by
  obtain ⟨engine, context, hengine, hcontext, -⟩ := h
  intro hprevented
  cases hprevented with
  | settings hconfig =>
      cases hengine.symm.trans (engine_load_error.mpr (.inl hconfig))
  | templates hconfig hlibrary =>
      cases hengine.symm.trans (engine_load_error.mpr (.inr ⟨_, hconfig, hlibrary⟩))
  | context _ herror => cases hcontext.symm.trans herror

/-- What prevents a generation is no cause of a generation. -/
lemma Prevented.isRender (h : Prevented s root options e) : e.isRender = false := by
  cases h with
  | settings hconfig => exact Config.isRender_of_load hconfig
  | templates _ hlibrary => exact Library.isRender_of_load hlibrary
  | context _ hcontext => exact isRender_of_readContext hcontext

/-- The cause of a failed generation is one. -/
lemma Generates.isRender {f : Failure} (h : Generates s root options (.error f)) :
    f.cause.isRender := by
  obtain ⟨engine, context, hengine, -, hresult⟩ := h
  rcases Session.generate_result
      (s := ⟨engine, Cache.withSeconds engine.config.cacheSeconds⟩)
      (Engine.renderer_of_load hengine) s.disk (1000 * s.time)
      (requestOf options engine.config) context with
    ⟨o, ho⟩ | hgenerated
  · cases ho.symm.trans hresult
  · rw [hresult] at hgenerated
    cases hstore : engine.store.generated (sectionRenderer engine.config.separator)
        (requestOf options engine.config) context with
    | ok o =>
        rw [hstore] at hgenerated
        cases hgenerated
    | error f' =>
        rw [hstore] at hgenerated
        cases hgenerated
        rw [Failure.withBuiltin_cause]
        exact Store.isRender_of_generated hstore

/-- A command that is kept from generating fails with what keeps it. -/
lemma generation_of_prevented (h : Prevented s root options e) :
    ∃ events, Outcome.generation s root options = .failed s events e := by
  cases h with
  | settings hconfig =>
      have hengine := engine_load_error.mpr (.inl hconfig)
      exact ⟨[], by rw [Outcome.generation, hengine]⟩
  | templates hconfig hlibrary =>
      have hengine := engine_load_error.mpr (.inr ⟨_, hconfig, hlibrary⟩)
      exact ⟨[], by rw [Outcome.generation, hengine]⟩
  | @context engine e hengine hcontext =>
      exact ⟨engine.library.loadEvents, by simp only [Outcome.generation, hengine, hcontext]⟩

/-- A command that comes to a result ends with it, and has written nothing until then. -/
lemma generation_of_generates (h : Generates s root options result) :
    ∃ events, Outcome.generation s root options = finish s options events result ∧
      ∀ location, Event.wrote location ∉ events := by
  obtain ⟨engine, context, hengine, hcontext, rfl⟩ := h
  simp only [Outcome.generation, hengine, hcontext]
  refine ⟨_, rfl, fun location hmem => ?_⟩
  rcases List.mem_append.mp hmem with hmem | hmem
  · exact engine.library.wrote_notMem_loadEvents location hmem
  · exact Session.wrote_notMem_generate
      (s := ⟨engine, Cache.withSeconds engine.config.cacheSeconds⟩)
      (Engine.renderer_of_load hengine) s.disk location _ _ _ hmem

/-! ## Classes of outcomes -/

/-- The exit code of an outcome tells in which stage the command ended. -/
structure Classified (s : Situation) (root : String) (options : GenerateOptions)
    (o : Outcome) : Prop where
  /-- All is well if a document was generated and could be handed out. -/
  success : o.exitCode = 0 ↔ ∃ d, Generates s root options (.ok d) ∧ CanHandOut s options d
  /-- The generation failed, and what stands in for its document, if anything, could be handed
  out. -/
  generation : o.exitCode = 2 ↔
    ∃ f, Generates s root options (.error f) ∧ ∀ d, f.degraded = some d → CanHandOut s options d
  /-- The settings, the templates or the context were not accepted, or a document could not be
  handed out. -/
  other : o.exitCode = 1 ↔
    (∃ e, Prevented s root options e) ∨ ∃ d, Emits s root options d ∧ ¬ CanHandOut s options d
  /-- Without a document there is nothing to print and nothing to write. -/
  nothing : ∀ f, Generates s root options (.error f) → f.degraded = none →
    o.printed = "" ∧ o.disk = s.disk ∧ ∀ location, Event.wrote location ∉ o.events

/-- Something kept the command from generating. -/
lemma classified_of_prevented (h : Prevented s root options e) :
    Classified s root options (Outcome.generation s root options) := by
  obtain ⟨events, houtcome⟩ := generation_of_prevented h
  have hcode : (Outcome.generation s root options).exitCode = 1 := by
    rw [houtcome]
    simp [Outcome.exitCode, Outcome.failed, RunError.exitCode, Error.exitCode, h.isRender]
  refine ⟨?_, ?_, ?_, fun f hf => absurd h hf.not_prevented⟩
  · simp only [hcode, one_ne_zero, false_iff, not_exists, not_and]
    exact fun d hd => absurd h hd.not_prevented
  · simp only [hcode, OfNat.one_ne_ofNat, false_iff, not_exists, not_and]
    exact fun f hf => absurd h hf.not_prevented
  · simp only [hcode, true_iff]
    exact .inl ⟨e, h⟩

/-- A document was generated. -/
lemma classified_of_ok {d : Output} (h : Generates s root options (.ok d)) :
    Classified s root options (Outcome.generation s root options) := by
  obtain ⟨events, houtcome, -⟩ := generation_of_generates h
  have hgenerates : ∀ d', Generates s root options (.ok d') ↔ d' = d := by simp [h.iff_eq]
  have hnot : ∀ f, ¬ Generates s root options (.error f) := by simp [h.iff_eq]
  have hemits : ∀ d', Emits s root options d' ↔ d' = d := by simp [Emits, hgenerates, hnot]
  have hprevented : ¬ ∃ e, Prevented s root options e := fun ⟨e, he⟩ => h.not_prevented he
  obtain ⟨hgood, hbad⟩ := exitCode_finish_ok s options events d
  rw [← houtcome] at hgood hbad
  by_cases hout : CanHandOut s options d
  · exact ⟨by simp [hgood hout, hgenerates, hout], by simp [hgood hout, hnot],
      by simp [hgood hout, hprevented, hemits, hout], fun f hf => absurd hf (hnot f)⟩
  · exact ⟨by simp [hbad hout, hgenerates, hout], by simp [hbad hout, hnot],
      by simp [hbad hout, hemits, hout], fun f hf => absurd hf (hnot f)⟩

/-- The generation failed. -/
lemma classified_of_error {f : Failure} (h : Generates s root options (.error f)) :
    Classified s root options (Outcome.generation s root options) := by
  obtain ⟨events, houtcome, hwrote⟩ := generation_of_generates h
  have hgenerates : ∀ f', Generates s root options (.error f') ↔ f' = f := by simp [h.iff_eq]
  have hnot : ∀ d, ¬ Generates s root options (.ok d) := by simp [h.iff_eq]
  have hemits : ∀ d, Emits s root options d ↔ f.degraded = some d := by
    simp [Emits, hgenerates, hnot]
  have hprevented : ¬ ∃ e, Prevented s root options e := fun ⟨e, he⟩ => h.not_prevented he
  have hnothing : ∀ f', Generates s root options (.error f') → f'.degraded = none →
      (Outcome.generation s root options).printed = "" ∧
      (Outcome.generation s root options).disk = s.disk ∧
      ∀ location, Event.wrote location ∉ (Outcome.generation s root options).events := by
    intro f' hf' hdegraded
    cases h.unique hf'
    rw [houtcome, finish, hdegraded]
    exact ⟨rfl, rfl, hwrote⟩
  obtain ⟨hgood, hbad⟩ := exitCode_finish_error s options events f
  rw [← houtcome] at hgood hbad
  have hcode : f.exitCode = 2 := by simp [Failure.exitCode, Error.exitCode, h.isRender]
  -- the failure itself ends the command, unless what stands in for the document is stuck
  by_cases hout : ∀ d, f.degraded = some d → CanHandOut s options d
  · have h2 := (hgood hout).trans hcode
    refine ⟨by simp [h2, hnot], by simpa [h2, hgenerates] using hout, ?_, hnothing⟩
    simpa [h2, hprevented, hemits] using hout
  · obtain ⟨d, hd, hfault⟩ : ∃ d, f.degraded = some d ∧ ¬ CanHandOut s options d := by
      simpa using hout
    have h1 := hbad d hd hfault
    exact ⟨by simp [h1, hnot], by simp [h1, hgenerates, hd, hfault],
      by simp [h1, hemits, hd, hfault], hnothing⟩

/-- **The exit code of a command that generates tells what failed**: two stands for the generation
itself, one for everything before and after it.  A failed generation that nothing stands in for
leaves no trace but its exit code. -/
theorem generation_classified (s : Situation) (verbosity : Nat) (root : String)
    (options : GenerateOptions) :
    Classified s root options ((⟨verbosity, root, .generate options⟩ : Invocation).run s) := by
  rcases prevented_or_generates s root options with ⟨e, he⟩ | ⟨f | d, h⟩
  · exact classified_of_prevented he
  · exact classified_of_error h
  · exact classified_of_ok h

end CommandLine

end Docket
