import Docket.Proofs.Generation.Basic
import Docket.Proofs.Rendering.Errors

/-!
# Checked stores fail only on data

A store is checked if all its templates can be merged and all bodies in it can be read.  Such a
store leaves no trouble to be found when a document is generated: merging makes up no sections, so
all bodies of a resolved template have been checked, and a body that can be read fails only for the
data.
-/

namespace Docket

/-- All templates of a store can be merged, and all bodies of its definitions can be read. -/
structure Store.Checked (s : Store) : Prop where
  broken : s.broken = []
  templates : ∀ t ∈ s.templates, ∀ x ∈ t.2.sections, Template.check x.body = .ok ()
  fragments : ∀ f ∈ s.fragments, ∀ x ∈ f.2.sections, Template.check x.body = .ok ()

namespace Store.Checked

variable {s : Store}

/-- Every template of a checked store can be merged. -/
lemma merge_ok (hs : s.Checked) {key : TemplateKey} {d : Definition}
    (hd : s.template? key = some d) (e : Error) : s.merge d ≠ .error e := by
  intro he
  have hnone := List.filterMap_eq_nil_iff.mp hs.broken (key, d) (mem_of_lookup hd)
  simp [he, Error.of?] at hnone

lemma builtin_sections :
    ∀ x ∈ builtinTemplate.sections, Template.check x.body = .ok () := by
  simp only [builtinTemplate, List.forall_mem_cons]
  exact ⟨by rfl, by rfl, by simp⟩

/-- All bodies of a resolved template have been checked. -/
lemma sections_of_resolve (hs : s.Checked) {r : Request} {resolution : Resolution}
    (h : s.resolve r = .ok resolution) :
    ∀ x ∈ resolution.template.sections, Template.check x.body = .ok () := by
  intro x hx
  rcases resolve_ok h with hbuiltin | ⟨key, d, hd, hmerge⟩
  · exact builtin_sections x (hbuiltin ▸ hx)
  · rcases Definition.mem_sections_of_merge hmerge hx with hown | ⟨name, f, hf, hinherited⟩
    · exact hs.templates (key, d) (mem_of_lookup hd) x hown
    · exact hs.fragments (name, f) (mem_of_lookup hf) x hinherited

end Store.Checked

/-- **A checked store fails only on data**: for values of the wrong type and, under strictness, for
references without value. -/
theorem Store.generated_error_isData {s : Store} (hs : s.Checked) (separator : String)
    (request : Request) (context : Context) {f : Failure}
    (hf : s.generated (sectionRenderer separator) request context = .error f) :
    f.cause.IsData request.strictness := by
  rw [Store.generated] at hf
  cases hresolve : s.resolve request with
  | error f' =>
      obtain ⟨key, d, hd, hmerge⟩ := resolve_error hresolve
      exact absurd hmerge (hs.merge_ok hd _)
  | ok resolution =>
      obtain ⟨parsed, hparsed⟩ := Template.parseSections_of_check (hs.sections_of_resolve hresolve)
      simp only [hresolve, sectionRenderer] at hf
      rcases hrender : Template.renderSections separator resolution.template.sections
        (Bindings.bind context.value resolution.template.schema request.strictness) with e | d
      · rw [hrender] at hf
        cases hf
        exact Template.renderSections_error _ hparsed hrender
      · rw [hrender] at hf
        cases hf

/-! ## A store with one template -/

/-- A template that pipes the title through a filter for texts. -/
def issueTemplate : Definition :=
  { identity := .template ⟨"jira", "bug", "rust"⟩, version := "1", description := none,
    sections := [⟨"Summary", "{{ title | upper }}"⟩], schema := [], bases := ["notes"],
    source := "bug.yaml" }

/-- A fragment that goes through the notes. -/
def issueFragment : Definition :=
  { identity := .fragment "notes", version := "1", description := none,
    sections :=
      [⟨"Notes", "\x7b\x7b#each notes\x7d\x7d\x7b\x7b this \x7d\x7d\x7b\x7b/each\x7d\x7d"⟩],
    schema := [], bases := [], source := "notes.yaml" }

/-- A store with both. -/
def issueStore : Store :=
  { templates := [(⟨"jira", "bug", "rust"⟩, issueTemplate)],
    fragments := [("notes", issueFragment)] }

/-- What the template amounts to. -/
def issueMerged : MergedTemplate :=
  { id := "jira/bug/rust@1", key := some ⟨"jira", "bug", "rust"⟩, version := "1",
    description := none, sections := issueFragment.sections ++ issueTemplate.sections,
    schema := [], lineage := ["notes"], source := "bug.yaml" }

lemma issueStore_merge : issueStore.merge issueTemplate = .ok issueMerged := by cbv

lemma issueStore_checked : issueStore.Checked where
  broken := by
    refine List.filterMap_eq_nil_iff.mpr fun t ht => ?_
    obtain rfl := List.mem_singleton.mp ht
    simp [issueStore_merge, Error.of?]
  templates := by
    simp only [issueStore, issueTemplate, List.forall_mem_cons]
    exact ⟨⟨by rfl, by simp⟩, by simp⟩
  fragments := by
    simp only [issueStore, issueFragment, List.forall_mem_cons]
    exact ⟨⟨by rfl, by simp⟩, by simp⟩

/-- A request for the template of the store. -/
def issueRequest : Request := ⟨"jira", "bug", "rust", .strict⟩

/-- A context whose notes are no list. -/
def issueContext : Context := ⟨[("notes", .bool true)]⟩

/-- What comes of the request. -/
def issueFailure : Failure :=
  ⟨.typeMismatch "notes" "list" "boolean", "jira/bug/rust@1", ["exact-hit"], none⟩

lemma issueStore_generated :
    issueStore.generated (sectionRenderer "\n") issueRequest issueContext =
      .error issueFailure := by
  have hparsed : Template.parseSections issueMerged.sections =
      .ok
        [⟨"Notes", [.block .loop ⟨.root, [.key "notes"]⟩ [.expr ⟨⟨.this, []⟩, []⟩] []]⟩,
         ⟨"Summary", [.expr ⟨⟨.root, [.key "title"]⟩, [⟨.upper, []⟩]⟩]⟩] := by rfl
  rw [Store.generated, Store.resolve_exact rfl issueStore_merge]
  simp only [sectionRenderer, Template.renderSections, hparsed]
  rfl

theorem Store.generated_error_isData_issue :
    issueStore.Checked ∧
      issueStore.generated (sectionRenderer "\n") issueRequest issueContext = .error issueFailure ∧
      issueFailure.cause.IsData issueRequest.strictness :=
  ⟨issueStore_checked, issueStore_generated,
    Store.generated_error_isData issueStore_checked "\n" issueRequest issueContext
      issueStore_generated⟩

end Docket
