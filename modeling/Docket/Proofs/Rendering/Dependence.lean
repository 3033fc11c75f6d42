import Docket.Proofs.Rendering.Sections
import Docket.Proofs.Rendering.Strictness

/-!
# What a document depends on

A body asks the bindings for the paths that it names and for nothing else.  Inside a loop a name may
be found in an element instead, but the element is part of what the loop runs over, and the path of
the loop is named as well.  So bindings that answer alike for the named paths (`AgreeOn`) take every
step of rendering alike, whatever loops enclose it (`AgreeOn.steps`), and hence nodes and sections.

What else a document depends on is whether required variables have values.  With that,
`documentOf_eq_of_agreeOn` compares two contexts: data that no section names and no declaration
requires cannot change a document, be it in its text, its warnings or its errors.
-/

namespace Docket.Template

open Rendering

/-! ## Named paths -/

/-- A path that some section names, at any depth of its body. -/
def Mentioned (sections : List Section) (p : Path) : Prop :=
  ∃ s ∈ sections, ∃ nodes, parse s.body = .ok nodes ∧ p ∈ pathsOf nodes

/-- The paths of sections that have been read are named by the sections. -/
lemma mentioned_of_parseSections {sections : List Section} {parsed : List ParsedSection}
    (h : parseSections sections = .ok parsed) {s : ParsedSection} (hs : s ∈ parsed) {p : Path}
    (hp : p ∈ pathsOf s.nodes) : Mentioned sections p := by
  induction sections generalizing parsed with
  | nil =>
      cases h
      cases hs
  | cons first rest ih =>
      obtain ⟨nodes, tail, hfirst, hrest, rfl⟩ := parseSections_cons_ok h
      rcases List.mem_cons.mp hs with rfl | hs
      · exact ⟨first, List.mem_cons_self, nodes, hfirst, hp⟩
      · obtain ⟨s', hs', hmentioned⟩ := ih hrest hs
        exact ⟨s', List.mem_cons_of_mem _ hs', hmentioned⟩

/-! ## Bindings that cannot be told apart -/

lemma eq_congruence : Congruence fun {_} r r' => r = r' where
  done _ := rfl
  andThen := by
    rintro _ _ r _ f g rfl hfg
    exact congrArg r.andThen (funext hfg)

/-- Two bindings to one schema answer alike: named paths, as far as they are seen from the root, have
the same values, and the same required variables have any. -/
structure AgreeOn (named : Path → Prop) (b b' : Bindings) : Prop where
  declared : b.declared = b'.declared
  strictness : b.strictness = b'.strictness
  lookup : ∀ p, named p → p.scope = .root → b.lookup? p = b'.lookup? p
  required : ∀ name, (name, true) ∈ b.declared → (b.get? name).isSome = (b'.get? name).isSome

namespace AgreeOn

variable {named : Path → Prop} {b b' : Bindings} (h : AgreeOn named b b')

include h

/-- A named path is resolved alike inside of any loops. -/
lemma resolve_eq (frames : List Frame) {p : Path} (hp : named p) :
    resolve b frames p = resolve b' frames p := by
  cases hscope : p.scope with
  | root => simp only [resolve, hscope, h.lookup p hp hscope]
  | index | first | last | this => simp only [resolve, hscope]

lemma missing_eq (p : Path) : missing b p = missing b' p := by
  have hnotice : b.noticeOf p = b'.noticeOf p := by
    rw [Bindings.noticeOf, Bindings.noticeOf, Bindings.mayBeAbsent, Bindings.mayBeAbsent,
      h.declared, h.strictness]
  rw [missing, missing, hnotice]

/-- The steps of rendering are the same, as far as they ask for named paths. -/
lemma steps : StepsRelatedOn (fun {_} r r' => r = r') b b' named :=
  stepsRelatedOn_of_missing eq_congruence (fun _ => rfl) (fun frames _ hp => h.resolve_eq frames hp)
    fun p _ => h.missing_eq p

lemma requiredWarnings_eq : b.requiredWarnings = b'.requiredWarnings := by
  have hmissing : b.missingRequired = b'.missingRequired := by
    rw [Bindings.missingRequired, Bindings.missingRequired, ← h.declared]
    refine congrArg _ (List.filter_congr fun d hd => ?_)
    obtain ⟨name, required⟩ := d
    cases required with
    | false => rfl
    | true => simp only [← Option.not_isSome, h.required name hd]
  rw [Bindings.requiredWarnings, Bindings.requiredWarnings, h.strictness, hmissing]

end AgreeOn

/-- **Sections come to the same** under bindings that answer alike for the paths that they name. -/
lemma renderSections_eq_of_agreeOn (separator : String) {sections : List Section} {b b' : Bindings}
    (h : AgreeOn (Mentioned sections) b b') :
    renderSections separator sections b = renderSections separator sections b' := by
  rw [renderSections, renderSections]
  cases hparsed : parseSections sections with
  | error e => rfl
  | ok parsed =>
      have hsame : renderParsed b parsed = renderParsed b' parsed :=
        renderParsed_relatedOn eq_congruence h.steps fun s hs p hp =>
          mentioned_of_parseSections hparsed hs hp
      simp only [h.requiredWarnings_eq, hsame]

/-! ## Documents -/

/-- **A document depends only on what its template names.**  Suppose two contexts, bound to the
schema, give the same values to all paths seen from the root that sections name, and values to the
same required variables.  Then the template comes to the same for both: the same document, with its
text, its sections and its warnings, or the same error. -/
theorem documentOf_eq_of_agreeOn (separator : String) (template : MergedTemplate)
    (strictness : Strictness) {context context' : Value}
    (hlookup : ∀ s ∈ template.sections, ∀ nodes, parse s.body = .ok nodes →
      ∀ p ∈ pathsOf nodes, p.scope = .root →
        (Bindings.bind context template.schema strictness).lookup? p =
          (Bindings.bind context' template.schema strictness).lookup? p)
    (hrequired : ∀ v ∈ template.schema, v.2.isRequired →
      (((Bindings.bind context template.schema strictness).get?
          (Bindings.canonicalName v.1)).isSome ↔
        ((Bindings.bind context' template.schema strictness).get?
          (Bindings.canonicalName v.1)).isSome)) :
    documentOf separator template context strictness =
      documentOf separator template context' strictness := by
  refine renderSections_eq_of_agreeOn separator ⟨rfl, rfl, ?_, ?_⟩
  · rintro p ⟨s, hs, nodes, hparse, hp⟩ hroot
    exact hlookup s hs nodes hparse p hp hroot
  · intro name hname
    obtain ⟨v, hv, heq⟩ := List.mem_map.mp hname
    obtain ⟨rfl, hv'⟩ := Prod.mk.inj heq
    exact Bool.eq_iff_iff.mpr (hrequired v hv hv')

/-- A loop that shows its elements under a title, with a condition that is asked of each. -/
def runsText : String :=
  "\x7b\x7b#each runs\x7d\x7d\x7b\x7b title \x7d\x7d\x7b\x7b#if this.failed\x7d\x7d" ++
    "\x7b\x7b reason \x7d\x7d\x7b\x7b/if\x7d\x7d\x7b\x7b/each\x7d\x7d"

/-- The nodes of this loop. -/
def runsNodes : List Node :=
  [.block .loop ⟨.root, [.key "runs"]⟩
    [.expr ⟨⟨.root, [.key "title"]⟩, []⟩,
      .block .cond ⟨.this, [.key "failed"]⟩ [.expr ⟨⟨.root, [.key "reason"]⟩, []⟩] []] []]

lemma parse_runsText : parse runsText = .ok runsNodes := by rfl

/-- A template that shows the loop, with a default for the title and an owner that is required. -/
def runsTemplate : MergedTemplate :=
  { id := "jira/bug/rust@1", key := none, version := "1", description := none,
    sections := [⟨"Runs", runsText⟩],
    schema := [("title", { default := some (.text "Run") }), ("owner", { required := some true })],
    lineage := [], source := "bug.yaml" }

/-- Contexts with the same runs, but another owner, and with data that the template does not name. -/
theorem documentOf_eq_of_agreeOn_runs :
    let runs := Value.list [.map [("failed", .bool true), ("reason", .text "timeout")],
      .map [("failed", .bool true), ("title", .text "Nightly")]]
    let context := Value.map [("owner", .text "ann"), ("runs", runs)]
    let context' := Value.map [("owner", .null), ("runs", runs), ("secret", .map [("title", .null)])]
    let b := Bindings.bind context runsTemplate.schema .strict
    let b' := Bindings.bind context' runsTemplate.schema .strict
    (∀ s ∈ runsTemplate.sections, ∀ nodes, parse s.body = .ok nodes →
        ∀ p ∈ pathsOf nodes, p.scope = .root → b.lookup? p = b'.lookup? p) ∧
      (∀ v ∈ runsTemplate.schema, v.2.isRequired →
        ((b.get? (Bindings.canonicalName v.1)).isSome ↔
          (b'.get? (Bindings.canonicalName v.1)).isSome)) ∧
      documentOf "\n" runsTemplate context .strict =
        documentOf "\n" runsTemplate context' .strict := by
  intro runs context context' b b'
  have hlookup : ∀ s ∈ runsTemplate.sections, ∀ nodes, parse s.body = .ok nodes →
      ∀ p ∈ pathsOf nodes, p.scope = .root → b.lookup? p = b'.lookup? p := by
    intro s hs nodes hparse
    obtain rfl : s = ⟨"Runs", runsText⟩ := List.mem_singleton.mp hs
    obtain rfl : runsNodes = nodes := Except.ok.inj (parse_runsText.symm.trans hparse)
    simp only [runsNodes, pathsOf, Node.paths, List.append_nil, List.nil_append, List.cons_append,
      List.forall_mem_cons]
    refine ⟨fun _ => rfl, fun _ => rfl, ?_, fun _ => rfl, ?_⟩
    · intro hroot
      cases hroot
    · intro p hp
      cases hp
  have hrequired : ∀ v ∈ runsTemplate.schema, v.2.isRequired →
      ((b.get? (Bindings.canonicalName v.1)).isSome ↔
        (b'.get? (Bindings.canonicalName v.1)).isSome) := by
    refine List.forall_mem_cons.mpr ⟨fun _ => ?_, List.forall_mem_singleton.mpr fun _ => ?_⟩ <;> rfl
  exact ⟨hlookup, hrequired, documentOf_eq_of_agreeOn "\n" runsTemplate .strict hlookup hrequired⟩

end Docket.Template
