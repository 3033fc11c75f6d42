import Docket.Inheritance.Merge
import Docket.Proofs.Inheritance.Overlay

/-!
# Merging is one flat overlay

Merging gathers layers in a nested way: every base is itself merged with its own bases before it is
laid down.  Since overlaying is associative on what merging builds, the nesting does not show:
`gather_ok` says that gathering lays the fragments of the lineage down one after another, and
`Definition.merge_flat` tells a merged template by the flat list of what these fragments and the
definition say.

The lineage is the walk of the bases from the bottom up, `PostOrder`.  No name is met twice, since a
name that has been reached fails the merge.
-/

namespace Docket

namespace Inheritance

/-! ## Walking bases from the bottom up -/

/-- `PostOrder fragments bases names`: walking the bases, each after its own bases, meets `names`. -/
inductive PostOrder (fragments : Fragments) : (bases names : List String) → Prop where
  | nil : PostOrder fragments [] []
  | cons {base : String} {rest below after : List String} {fragment : Definition} :
    fragments.lookup base = some fragment → PostOrder fragments fragment.bases below →
      PostOrder fragments rest after → PostOrder fragments (base :: rest) (below ++ base :: after)

/-! ## One base after another -/

section Gather

variable {fragments : Fragments} {chain : List String} {referrer : String} {reached : List String}
  {layer : Layer} {lineage : List String}

lemma gather_nil :
    gather fragments chain referrer reached layer lineage [] =
      .ok ⟨layer, lineage, reached, fun _ h => h⟩ := by
  rw [gather]

/-- How a base is gathered and those after it. -/
lemma gather_cons (base : String) (rest : List String) :
    gather fragments chain referrer reached layer lineage (base :: rest) =
      if base ∈ reached then .error (.cyclic (chain ++ [base]))
      else
        match fragments.lookup base with
        | none => .error (.fragmentNotFound base referrer)
        | some fragment =>
          match gather fragments (chain ++ [base]) fragment.id (base :: reached) {} []
              fragment.bases with
          | .error e => .error e
          | .ok below =>
            match gather fragments chain referrer below.reachedNow
                (layer.overlay (below.layer.overlay fragment.layer))
                (lineage ++ below.lineage ++ [base]) rest with
            | .error e => .error e
            | .ok all =>
              .ok
                ⟨all.layer, all.lineage, all.reachedNow,
                  fun n h => all.keeps n (below.keeps n (List.mem_cons_of_mem _ h))⟩ := by
  rw [gather]
  by_cases hr : base ∈ reached
  · simp only [dif_pos hr, if_pos hr]
  · simp only [dif_neg hr, if_neg hr]
    split
    · rename_i hd
      rewrite [hd]
      rfl
    · rename_i fragment hd
      rewrite [hd]
      rfl

/-- What it takes to gather a base and those after it. -/
lemma gather_cons_ok {base : String} {rest : List String} {all : Gathered reached}
    (h : gather fragments chain referrer reached layer lineage (base :: rest) = .ok all) :
    base ∉ reached ∧ ∃ (fragment : Definition) (below : Gathered (base :: reached))
      (after : Gathered below.reachedNow),
        fragments.lookup base = some fragment ∧
        gather fragments (chain ++ [base]) fragment.id (base :: reached) {} [] fragment.bases =
          .ok below ∧
        gather fragments chain referrer below.reachedNow
          (layer.overlay (below.layer.overlay fragment.layer))
          (lineage ++ below.lineage ++ [base]) rest = .ok after ∧
        all.layer = after.layer ∧ all.lineage = after.lineage ∧
        all.reachedNow = after.reachedNow := by
  rw [gather_cons] at h
  split at h
  · cases h
  · rename_i hr
    split at h
    · cases h
    · rename_i fragment hd
      split at h
      · cases h
      · rename_i below hbelow
        split at h
        · cases h
        · rename_i after hafter
          cases h
          exact ⟨hr, fragment, below, after, hd, hbelow, hafter, rfl, rfl, rfl⟩

end Gather

variable {fragments : Fragments}

/-- Gathering bases lays the fragments of their walk over the layer, one after another. -/
lemma gather_ok {chain : List String} {referrer : String} {reached : List String} {layer : Layer}
    {lineage bases : List String} {all : Gathered reached}
    (h : gather fragments chain referrer reached layer lineage bases = .ok all) :
    ∃ (names : List String) (pile : List Definition),
      PostOrder fragments bases names ∧ names.map (List.lookup · fragments) = pile.map some ∧
      names.Nodup ∧ (∀ n ∈ names, n ∉ reached) ∧ (∀ n ∈ names, n ∈ all.reachedNow) ∧
      all.lineage = lineage ++ names ∧ all.layer = layer.overlayPile pile := by
  match bases, h with
  | [], h =>
      rw [gather_nil, Except.ok.injEq] at h
      subst h
      exact ⟨[], [], .nil, rfl, List.nodup_nil, by simp, by simp, by simp, rfl⟩
  | base :: rest, h =>
      obtain ⟨hr, fragment, below, after, hd, hbelow, hafter, hlayer, hlineage, hreached⟩ :=
        gather_cons_ok h
      have hfewer := unreached_cons_lt hd hr
      have hkeeps : ∀ n ∈ reached, n ∈ below.reachedNow := fun n hn =>
        below.keeps n (List.mem_cons_of_mem _ hn)
      obtain ⟨names, pile, hwalk, hpile, hnodup, hnew, hin, hnames, hflat⟩ := gather_ok hbelow
      obtain ⟨names', pile', hwalk', hpile', hnodup', hnew', hin', hnames', hflat'⟩ :=
        gather_ok hafter
      have hbase : base ∈ below.reachedNow := below.keeps base (List.mem_cons_self ..)
      refine ⟨names ++ base :: names', pile ++ fragment :: pile', .cons hd hwalk hwalk', ?_, ?_, ?_,
        ?_, ?_, ?_⟩
      · simp [hpile, hd, hpile']
      · -- a name walked later has not been reached when the base was finished
        refine List.nodup_append.mpr ⟨hnodup, List.nodup_cons.mpr ⟨fun hb => hnew' _ hb hbase,
          hnodup'⟩, fun a ha b hb hab => ?_⟩
        subst hab
        rcases List.mem_cons.mp hb with rfl | hb
        · exact hnew _ ha (List.mem_cons_self ..)
        · exact hnew' _ hb (hin _ ha)
      · intro n hn hreach
        rcases List.mem_append.mp hn with hn | hn
        · exact hnew n hn (List.mem_cons_of_mem _ hreach)
        · rcases List.mem_cons.mp hn with rfl | hn
          · exact hr hreach
          · exact hnew' n hn (hkeeps n hreach)
      · intro n hn
        rw [hreached]
        rcases List.mem_append.mp hn with hn | hn
        · exact after.keeps n (hin n hn)
        · rcases List.mem_cons.mp hn with rfl | hn
          · exact after.keeps n hbase
          · exact hin' n hn
      · simp [hlineage, hnames', hnames]
      · -- the base with its own bases is a pile, and a pile may be laid down on its own first
        have hbelowPile : below.layer.overlay fragment.layer = Layer.ofPile (pile ++ [fragment]) := by
          rw [hflat, Layer.ofPile, Layer.overlayPile_append]
          rfl
        rw [hlayer, hflat', hbelowPile, Layer.overlay_ofPile, ← Layer.overlayPile_append]
        simp
termination_by (unreached fragments reached, bases.length)
decreasing_by
  · exact Prod.Lex.left _ _ hfewer
  · exact Prod.Lex.right' _ (unreached_le hkeeps) (by simp)

end Inheritance

/-! ## Merged templates -/

/-- A merged template seen as one flat overlay of a pile of definitions. -/
structure MergedTemplate.FlatOverlay (m : MergedTemplate) (pile : List Definition) : Prop where
  /-- Each section name once, in the order of first occurrence. -/
  sectionNames :
    m.sections.map (·.name) = ((pile.flatMap (·.sections)).map (·.name)).eraseDups
  /-- Each section is the last one of its name. -/
  section_last : ∀ s ∈ m.sections, (Layer.sectionsNamed s.name pile).getLast? = some s
  /-- Each variable once, in the order of first occurrence. -/
  variableNames : m.schema.map (·.1) = ((pile.flatMap (·.schema)).map (·.1)).eraseDups
  required : ∀ v ∈ m.schema,
    v.2.required = lastSet (fun w => w.2.required) (Layer.declarationsOf v.1 pile)
  default : ∀ v ∈ m.schema,
    v.2.default = lastSet (fun w => w.2.default) (Layer.declarationsOf v.1 pile)
  variableDescription : ∀ v ∈ m.schema,
    v.2.description = lastSet (fun w => w.2.description) (Layer.declarationsOf v.1 pile)
  description : m.description = lastSet (·.description) pile

/-- A merged template holds what the pile of its fragments and the definition amounts to. -/
lemma Definition.merge_ok {fragments : Fragments} {d : Definition} {m : MergedTemplate}
    (h : d.merge fragments = .ok m) :
    ∃ bases : List Definition, m.lineage.map (List.lookup · fragments) = bases.map some ∧
      Inheritance.PostOrder fragments d.bases m.lineage ∧ m.lineage.Nodup ∧
      m = ⟨d.id, d.key?, d.version, (Layer.ofPile (bases ++ [d])).description,
        (Layer.ofPile (bases ++ [d])).sections, (Layer.ofPile (bases ++ [d])).schema, m.lineage,
        d.source⟩ := by
  rw [Definition.merge] at h
  split at h
  · cases h
  · rename_i below hbelow
    cases h
    obtain ⟨names, bases, hwalk, hbases, hnodup, -, -, hnames, hflat⟩ :=
      Inheritance.gather_ok hbelow
    rw [List.nil_append] at hnames
    have hlayer : below.layer.overlay d.layer = Layer.ofPile (bases ++ [d]) := by
      rw [hflat, Layer.ofPile, Layer.overlayPile_append]
      rfl
    exact ⟨bases, hnames ▸ hbases, hnames ▸ hwalk, hnames ▸ hnodup, by rw [hlayer]⟩

/-- Merging makes up no sections: each one stands in the definition or in a fragment. -/
lemma Definition.mem_sections_of_merge {fragments : Fragments} {d : Definition}
    {m : MergedTemplate} (h : d.merge fragments = .ok m) {s : Section} (hs : s ∈ m.sections) :
    s ∈ d.sections ∨
      ∃ name fragment, List.lookup name fragments = some fragment ∧ s ∈ fragment.sections := by
  obtain ⟨bases, hbases, -, -, hm⟩ := Definition.merge_ok h
  rw [hm] at hs
  have hlast := List.mem_of_getLast? (Layer.getLast?_sectionsNamed hs)
  obtain ⟨e, he, hse⟩ := List.mem_flatMap.mp (List.mem_filter.mp hlast).1
  rcases List.mem_append.mp he with he | he
  · have hmem : some e ∈ m.lineage.map (List.lookup · fragments) :=
      hbases ▸ List.mem_map_of_mem he
    obtain ⟨name, -, hname⟩ := List.mem_map.mp hmem
    exact .inr ⟨name, e, hname, hse⟩
  · exact .inl (List.mem_singleton.mp he ▸ hse)

/-- A merged template is the flat overlay of the fragments of its lineage and the definition. -/
theorem Definition.merge_flat {fragments : Fragments} {d : Definition} {m : MergedTemplate}
    (h : d.merge fragments = .ok m) :
    Inheritance.PostOrder fragments d.bases m.lineage ∧ m.lineage.Nodup ∧
      (∃ bases : List Definition, m.lineage.map (List.lookup · fragments) = bases.map some ∧
        m.FlatOverlay (bases ++ [d])) ∧
      m.id = d.id ∧ m.key = d.key? ∧ m.version = d.version ∧ m.source = d.source := by
  obtain ⟨bases, hbases, hwalk, hnodup, hm⟩ := Definition.merge_ok h
  refine ⟨hwalk, hnodup, ⟨bases, hbases, ?_⟩, by rw [hm], by rw [hm], by rw [hm], by rw [hm]⟩
  rw [hm]
  exact
    { sectionNames := Layer.map_name_ofPile _
      section_last := fun s hs => Layer.getLast?_sectionsNamed hs
      variableNames := Layer.map_fst_ofPile _
      required := fun v hv => Layer.declaration_ofPile (fun _ _ => rfl) hv
      default := fun v hv => Layer.declaration_ofPile (fun _ _ => rfl) hv
      variableDescription := fun v hv => Layer.declaration_ofPile (fun _ _ => rfl) hv
      description := Layer.description_ofPile _ }

/-! ## A report on a page

The page says one of its sections twice, and the attributes of `title` come from three places. -/

/-- A fragment that says a section twice, and one that is based on it. -/
def reportFragments : Fragments :=
  [("page",
    { identity := .fragment "page", version := "1", description := some "A page",
      sections := [⟨"Body", "one"⟩, ⟨"Foot", "end"⟩, ⟨"Body", "two"⟩],
      schema := [("title", { required := some true })], bases := [], source := "page.yaml" }),
   ("report",
    { identity := .fragment "report", version := "1", description := none,
      sections := [⟨"Head", "top"⟩], schema := [("title", { default := some .null })],
      bases := ["page"], source := "report.yaml" })]

/-- A template that is based on the report. -/
def reportTemplate : Definition :=
  { identity := .template ⟨"jira", "bug", "rust"⟩, version := "1", description := none,
    sections := [⟨"Foot", "three"⟩], schema := [("title", { description := some "Its title" })],
    bases := ["report"], source := "bug.yaml" }

/-- What the template amounts to. -/
def reportMerged : MergedTemplate :=
  { id := "jira/bug/rust@1", key := some ⟨"jira", "bug", "rust"⟩, version := "1",
    description := some "A page",
    sections := [⟨"Body", "two"⟩, ⟨"Foot", "three"⟩, ⟨"Head", "top"⟩],
    schema := [("title", ⟨some true, some .null, some "Its title"⟩)],
    lineage := ["page", "report"], source := "bug.yaml" }

lemma merge_reportTemplate : reportTemplate.merge reportFragments = .ok reportMerged := by cbv

theorem Definition.merge_flat_report :
    reportTemplate.merge reportFragments = .ok reportMerged ∧
    Inheritance.PostOrder reportFragments ["report"] ["page", "report"] ∧
      ["page", "report"].Nodup ∧
      (∃ bases : List Definition,
        ["page", "report"].map (List.lookup · reportFragments) = bases.map some ∧
        reportMerged.FlatOverlay (bases ++ [reportTemplate])) ∧
      reportMerged.id = reportTemplate.id ∧ reportMerged.key = reportTemplate.key? ∧
      reportMerged.version = reportTemplate.version ∧
      reportMerged.source = reportTemplate.source :=
  ⟨merge_reportTemplate, Definition.merge_flat merge_reportTemplate⟩

end Docket
