import Docket.Proofs.Definition.Reading
import Docket.Proofs.Generation.Checked
import Docket.Proofs.Store.Building
import Docket.Proofs.Validation.Sorting

/-!
# Validation agrees with loading

Loading stops at the first trouble, validation goes on and tells all of it.  Both look at the same
files in the same order: the first file that cannot be read is the first problem of validation
(`readAll_of_error`), and the first definition that a store refuses is the first repeated identity
(`collect_of_error`).  Validation tells templates apart by the text of their keys, a store by the
keys; as the parts of a key hold no slash, both keep the same index (`Index.Agrees`).

`validate_agrees_with_load` puts this together: there are no problems exactly if a directory loads
into a store whose templates and fragments can be merged and whose bodies can be read; a file that
keeps the directory from loading is a problem with the line and the wording that loading reports,
also if it is no document and they are the reader's own; and so is a repeated identity, at its
second file.
-/

namespace Docket

/-- All templates and fragments of a store can be merged, and all bodies can be read. -/
structure Store.Flawless (s : Store) : Prop extends s.Checked where
  useful : ∀ f ∈ s.fragments, ∃ m, s.merge f.2 = .ok m

/-! ## Locations and patterns -/

lemma Disk.isFile_of_isDirectory {disk : Disk} {location : String}
    (h : disk.isDirectory location = true) : disk.isFile location = false := by
  rw [isDirectory] at h
  rw [isFile]
  split at h <;> simp_all

/-- Patterns are refused for one of them that is malformed. -/
lemma Globs.ofTexts_error [Objections] {patterns : List String} {e : Error}
    (h : ofTexts patterns = .error e) : ∃ objection, e = .badGlob objection := by
  induction patterns with
  | nil => cases h
  | cons pattern rest ih =>
      rw [ofTexts, List.mapM_cons, patternOf] at h
      split at h
      · cases hrest : rest.mapM patternOf with
        | ok globs => simp [hrest, bind, Except.bind, pure, Except.pure] at h
        | error e' =>
            simp only [hrest, bind, Except.bind, Except.error.injEq] at h
            exact ih (h ▸ hrest)
      · cases h
        exact ⟨_, rfl⟩

namespace Validation

/-! ## Reading files -/

section Reading

variable [Objections] {f : FoundFile} {files : List FoundFile}

/-- What the definition of a file can come to. -/
lemma definition_cases (f : FoundFile) :
    (∃ d, f.definition = .ok d ∧ d.identity.Plain) ∨
      (∃ fault, f.definition = .error (.file fault)) ∨
        ∃ file line problem, f.definition = .error (.malformed file line problem) := by
  rw [FoundFile.definition, FoundFile.read]
  cases f.text with
  | none => exact .inr (.inl ⟨_, rfl⟩)
  | some text =>
      rcases Definition.read_cases f.location text with ⟨d, hd, hplain, -⟩ | ⟨line, problem, h⟩
      · exact .inl ⟨d, hd, hplain⟩
      · exact .inr (.inr ⟨_, line, problem, h⟩)

lemma definition_plain {d : Definition} (h : f.definition = .ok d) : d.identity.Plain := by
  rcases definition_cases f with ⟨e, he, hplain⟩ | ⟨_, he⟩ | ⟨_, _, _, he⟩ <;>
    rw [h] at he <;> cases he
  exact hplain

lemma definition_of_check {r : Readable} (h : check f = .ok r) :
    f.definition = .ok r.definition := by
  simp only [check] at h
  split at h
  · cases h
  · rename_i text hread
    split at h
    · cases h
    · rename_i d hd
      cases h
      simp only [FoundFile.definition, hread, hd]

lemma error_of_check {d : Diagnostic} (h : check f = .error d) :
    ∃ e, f.definition = .error e ∧ d = unread f e := by
  simp only [check] at h
  split at h
  · rename_i e hread
    exact ⟨e, by simp only [FoundFile.definition, hread], (Except.error.inj h).symm⟩
  · rename_i text hread
    split at h
    · rename_i e hd
      exact ⟨e, by simp only [FoundFile.definition, hread, hd], (Except.error.inj h).symm⟩
    · cases h

lemma readAll_cons (f : FoundFile) (files : List FoundFile) :
    readAll (f :: files) =
      match check f with
      | .ok r => ((readAll files).1, r :: (readAll files).2)
      | .error d => (d :: (readAll files).1, (readAll files).2) := rfl

/-- If all files can be read, validation finds their definitions and no problem with reading. -/
lemma readAll_of_ok {ds : List Definition} (h : files.mapM FoundFile.definition = .ok ds) :
    ∃ readable, readAll files = ([], readable) ∧ readable.map (·.definition) = ds ∧
      ∀ r ∈ readable, r.definition.identity.Plain := by
  induction files generalizing ds with
  | nil =>
      cases h
      exact ⟨[], rfl, rfl, by simp⟩
  | cons f files ih =>
      rw [List.mapM_cons] at h
      cases hd : f.definition with
      | error e => simp [hd, bind, Except.bind] at h
      | ok d =>
          cases hrest : files.mapM FoundFile.definition with
          | error e => simp [hd, hrest, bind, Except.bind] at h
          | ok rest =>
              simp only [hd, hrest, bind, Except.bind, pure, Except.pure, Except.ok.injEq] at h
              obtain ⟨readable, hall, hmap, hplain⟩ := ih hrest
              cases hcheck : check f with
              | error x =>
                  obtain ⟨e, he, -⟩ := error_of_check hcheck
                  cases hd.symm.trans he
              | ok r =>
                  have hr : d = r.definition :=
                    Except.ok.inj (hd.symm.trans (definition_of_check hcheck))
                  refine ⟨r :: readable, ?_, ?_, List.forall_mem_cons.mpr ⟨?_, hplain⟩⟩
                  · rw [readAll_cons, hcheck, hall]
                  · rw [List.map_cons, hmap, ← hr, h]
                  · exact definition_plain (definition_of_check hcheck)

/-- The first file that cannot be read is the first problem. -/
lemma readAll_of_error {e : Error} (h : files.mapM FoundFile.definition = .error e) :
    ∃ f problems readable, f.definition = .error e ∧
      readAll files = (unread f e :: problems, readable) := by
  induction files with
  | nil => cases h
  | cons f files ih =>
      rw [List.mapM_cons] at h
      cases hcheck : check f with
      | error x =>
          obtain ⟨e', he', rfl⟩ := error_of_check hcheck
          simp only [he', bind, Except.bind, Except.error.injEq] at h
          subst h
          exact ⟨f, _, _, he', by rw [readAll_cons, hcheck]⟩
      | ok r =>
          cases hrest : files.mapM FoundFile.definition with
          | ok rest =>
              simp [definition_of_check hcheck, hrest, bind, Except.bind, pure, Except.pure] at h
          | error e' =>
              simp only [definition_of_check hcheck, hrest, bind, Except.bind,
                Except.error.injEq] at h
              subst h
              obtain ⟨g, problems, readable, hg, hall⟩ := ih hrest
              exact ⟨g, problems, r :: readable, hg, by rw [readAll_cons, hcheck, hall]⟩

end Reading

/-! ## Collecting definitions -/

/-- An index and a store have met the same definitions: the same fragments, and templates of the
same files. -/
structure Index.Agrees (i : Index) (s : Store) : Prop where
  fragments : i.fragments = s.fragments
  holder : ∀ identity : Identity, identity.Plain →
    i.holder? identity = (s.holder? identity).map (·.source)

lemma Index.agrees_empty : Index.Agrees {} {} where
  fragments := rfl
  holder identity _ := by cases identity <;> rfl

/-- Both go on to agree when a definition with a new identity is added. -/
lemma Index.Agrees.add {i : Index} {s t : Store} {d : Definition} (h : i.Agrees s)
    (hd : d.identity.Plain) (hadd : s.add d = .ok t) : (i.add d).Agrees t := by
  obtain ⟨hnew, ht⟩ := Store.add_ok hadd
  have hfree : i.holder? d.identity = none := by rw [h.holder _ hd, hnew, Option.map_none]
  have hholder := Store.holder?_of_add hadd
  cases hid : d.identity with
  | template key =>
      rw [hid] at ht hd hfree
      refine ⟨?_, fun identity hplain => ?_⟩
      · simp only [Index.add, hid, h.fragments, ht]
      · rw [hholder]
        cases identity with
        | fragment n => simpa [Index.add, hid, Index.holder?] using h.holder (.fragment n) hplain
        | template k =>
            have hk := h.holder (.template k) hplain
            simp only [Index.add, hid, Index.holder?] at hk hfree ⊢
            rw [lookup_insertOrdered hfree, hk]
            -- the texts of two keys without slashes differ if the keys do
            by_cases hkey : k = key
            · simp [hkey]
            · have htext : k.text ≠ key.text := fun heq =>
                hkey (TemplateKey.text_injective hplain hd heq)
              simp [hkey, htext]
  | fragment name =>
      rw [hid] at ht hfree
      refine ⟨?_, fun identity hplain => ?_⟩
      · simp only [Index.add, hid, h.fragments, ht]
      · rw [hholder]
        cases identity with
        | template k => simpa [Index.add, hid, Index.holder?] using h.holder (.template k) hplain
        | fragment n =>
            have hn := h.holder (.fragment n) hplain
            have hfree' : i.fragments.lookup name = none := by
              simpa [Index.holder?] using hfree
            simp only [Index.add, hid, Index.holder?] at hn ⊢
            rw [lookup_insertOrdered hfree']
            by_cases hname : n = name
            · simp [hname]
            · simpa [hname] using hn

/-- If a store takes all definitions, validation finds none repeated and ends with the same
index. -/
lemma collect_of_ok {rs : List Readable} {i : Index} {s t : Store}
    (hplain : ∀ r ∈ rs, r.definition.identity.Plain) (h : i.Agrees s)
    (hbuild : (rs.map (·.definition)).foldlM Store.add s = .ok t) :
    ∃ j, collect rs i = ([], j) ∧ j.Agrees t := by
  induction rs generalizing i s with
  | nil =>
      cases hbuild
      exact ⟨i, rfl, h⟩
  | cons r rs ih =>
      have hr := hplain r (List.mem_cons_self ..)
      rw [List.map_cons, List.foldlM_cons] at hbuild
      cases hadd : s.add r.definition with
      | error e => simp [hadd, bind, Except.bind] at hbuild
      | ok s' =>
          simp only [hadd, bind, Except.bind] at hbuild
          have hfree : i.holder? r.definition.identity = none := by
            rw [h.holder _ hr, (Store.add_ok hadd).1, Option.map_none]
          obtain ⟨j, hj, hagrees⟩ :=
            ih (fun r hr => hplain r (List.mem_cons_of_mem _ hr)) (h.add hr hadd) hbuild
          exact ⟨j, by simp only [collect, hfree, hj], hagrees⟩

/-- The first definition that a store refuses is the first problem with identities. -/
lemma collect_of_error {rs : List Readable} {i : Index} {s : Store} {e : Error}
    (hplain : ∀ r ∈ rs, r.definition.identity.Plain) (h : i.Agrees s)
    (hbuild : (rs.map (·.definition)).foldlM Store.add s = .error e) :
    ∃ r ∈ rs, ∃ first rest j, e = .duplicate r.definition.identity.text first r.definition.source ∧
      collect rs i = (identityProblem r e :: rest, j) := by
  induction rs generalizing i s with
  | nil => cases hbuild
  | cons r rs ih =>
      have hr := hplain r (List.mem_cons_self ..)
      rw [List.map_cons, List.foldlM_cons] at hbuild
      cases hheld : s.holder? r.definition.identity with
      | some first =>
          have hfirst : i.holder? r.definition.identity = some first.source := by
            rw [h.holder _ hr, hheld, Option.map_some]
          simp only [Store.add_of_holder hheld, bind, Except.bind, Except.error.injEq] at hbuild
          subst hbuild
          exact ⟨r, List.mem_cons_self .., first.source, (collect rs i).1, (collect rs i).2, rfl,
            by simp only [collect, hfirst]⟩
      | none =>
          obtain ⟨s', hadd⟩ := Store.exists_add hheld
          simp only [hadd, bind, Except.bind] at hbuild
          have hfree : i.holder? r.definition.identity = none := by
            rw [h.holder _ hr, hheld, Option.map_none]
          obtain ⟨r', hr', first, rest, j, he, hcollect⟩ :=
            ih (fun r hr => hplain r (List.mem_cons_of_mem _ hr)) (h.add hr hadd) hbuild
          exact ⟨r', List.mem_cons_of_mem _ hr', first, rest, j, he,
            by simp only [collect, hfree, hcollect]⟩

/-! ## All problems -/

lemma of?_eq_none_iff {α : Type} {x : Except Error α} : Error.of? x = none ↔ ∃ a, x = .ok a := by
  cases x <;> simp [Error.of?]

lemma sectionProblem?_eq_none_iff {r : Readable} {s : Section} :
    sectionProblem? r s = none ↔ Template.check s.body = .ok () := by
  rw [sectionProblem?, Option.map_eq_none_iff, of?_eq_none_iff]
  exact ⟨fun ⟨_, h⟩ => h, fun h => ⟨(), h⟩⟩

/-- The problem of a section is not worded like a repeated identity: it starts with another
letter. -/
lemma sectionProblem?_message {r : Readable} {s : Section} {d : Diagnostic}
    (h : sectionProblem? r s = some d) (key first second : String) :
    (Error.duplicate key first second).message ≠ d.message := by
  rw [sectionProblem?] at h
  obtain ⟨e, -, rfl⟩ := Option.map_eq_some_iff.mp h
  intro heq
  have hworded : (Error.duplicate key first second).message =
      "Duplicate definition for '" ++ key ++ "' in '" ++ second ++ "' (first defined in '" ++
        first ++ "')." := rfl
  rw [hworded] at heq
  have hstart := congrArg (fun m => m.toList.head?) heq
  simp [String.toList_append] at hstart

lemma mergeProblem?_eq_none_iff {fragments : Fragments} {r : Readable} :
    mergeProblem? fragments r = none ↔ ∃ m, r.definition.merge fragments = .ok m := by
  rw [mergeProblem?, Option.map_eq_none_iff, of?_eq_none_iff]

/-- What a store was built from has a property exactly if all its templates and fragments have. -/
lemma forall_mem_iff_of_ofDefinitions {ds : List Definition} {s : Store}
    (h : Store.ofDefinitions ds = .ok s) (P : Definition → Prop) :
    (∀ d ∈ ds, P d) ↔ (∀ t ∈ s.templates, P t.2) ∧ ∀ f ∈ s.fragments, P f.2 := by
  have hholds := Store.holds_of_ofDefinitions h
  constructor
  · intro hall
    exact ⟨fun t ht => hall t.2 ((hholds t.2 (.template t.1)).mp ht).1,
      fun f hf => hall f.2 ((hholds f.2 (.fragment f.1)).mp hf).1⟩
  · rintro ⟨htemplates, hfragments⟩ d hd
    have hheld := (hholds d d.identity).mpr ⟨hd, rfl⟩
    cases hid : d.identity with
    | template key => exact htemplates (key, d) (by rwa [hid] at hheld)
    | fragment name => exact hfragments (name, d) (by rwa [hid] at hheld)

lemma flawless_iff {s : Store} : s.Flawless ↔
    (∀ t ∈ s.templates,
        (∀ x ∈ t.2.sections, Template.check x.body = .ok ()) ∧ ∃ m, s.merge t.2 = .ok m) ∧
      ∀ f ∈ s.fragments,
        (∀ x ∈ f.2.sections, Template.check x.body = .ok ()) ∧ ∃ m, s.merge f.2 = .ok m := by
  have hbroken : s.broken = [] ↔ ∀ t ∈ s.templates, ∃ m, s.merge t.2 = .ok m := by
    simp [Store.broken, List.filterMap_eq_nil_iff, of?_eq_none_iff]
  constructor
  · intro h
    exact ⟨fun t ht => ⟨h.templates t ht, hbroken.mp h.broken t ht⟩,
      fun f hf => ⟨h.fragments f hf, h.useful f hf⟩⟩
  · rintro ⟨htemplates, hfragments⟩
    exact
      { broken := hbroken.mpr fun t ht => (htemplates t ht).2
        templates := fun t ht => (htemplates t ht).1
        fragments := fun f hf => (hfragments f hf).1
        useful := fun f hf => (hfragments f hf).2 }

variable [Objections]

/-- What validation finds in files that load, apart from what concerns reading and identities. -/
lemma problems_of_storeOf_ok {files : List FoundFile} {s : Store}
    (h : Library.storeOf files = .ok s) : problems files = [] ↔ s.Flawless := by
  rw [Library.storeOf] at h
  split at h
  · cases h
  · rename_i ds hds
    obtain ⟨readable, hread, hmap, hplain⟩ := readAll_of_ok hds
    rw [Store.ofDefinitions, ← hmap] at h
    obtain ⟨j, hcollect, hagrees⟩ := collect_of_ok hplain Index.agrees_empty h
    have hall := forall_mem_iff_of_ofDefinitions (hmap ▸ h : Store.ofDefinitions ds = .ok s)
      fun d => (∀ x ∈ d.sections, Template.check x.body = .ok ()) ∧
        ∃ m, d.merge s.fragments = .ok m
    rw [flawless_iff]
    refine Iff.trans ?_ hall
    rw [← hmap]
    simp only [problems, hread, hcollect, hagrees.fragments, Diagnostic.sorted_eq_nil_iff,
      List.nil_append, List.append_nil, List.append_eq_nil_iff, List.flatMap_eq_nil_iff,
      List.filterMap_eq_nil_iff, sectionProblem?_eq_none_iff, mergeProblem?_eq_none_iff,
      List.forall_mem_map, forall_and]

/-- What validation finds in files one of which cannot be read. -/
lemma problems_of_unread {files : List FoundFile} {e : Error}
    (h : files.mapM FoundFile.definition = .error e) :
    ∃ f, f.definition = .error e ∧ unread f e ∈ problems files := by
  obtain ⟨f, rest, readable, hf, hread⟩ := readAll_of_error h
  refine ⟨f, hf, ?_⟩
  simp only [problems, hread, List.cons_append]
  exact Diagnostic.mem_sorted_of_new (by simp : ∀ e ∈ [], _)

/-- What validation finds in files that can be read and of which two have the same identity. -/
lemma problems_of_repeated {files : List FoundFile} {ds : List Definition} {e : Error}
    (hds : files.mapM FoundFile.definition = .ok ds) (h : Store.ofDefinitions ds = .error e) :
    ∃ key first second line, e = .duplicate key first second ∧
      ⟨second, line, e.message⟩ ∈ problems files := by
  obtain ⟨readable, hread, hmap, hplain⟩ := readAll_of_ok hds
  rw [Store.ofDefinitions, ← hmap] at h
  obtain ⟨r, -, first, rest, j, he, hcollect⟩ := collect_of_error hplain Index.agrees_empty h
  refine ⟨_, first, _, Definition.lineOfKey r.text (identityKey r.definition.identity), he, ?_⟩
  simp only [problems, hread, hcollect, List.nil_append, List.cons_append, List.append_assoc]
  refine Diagnostic.mem_sorted_of_new fun x hx => Diagnostic.before_or_before (.inr (.inr ?_))
  -- the wording of a section's problem starts with another letter
  obtain ⟨q, -, hx⟩ := List.mem_flatMap.mp hx
  obtain ⟨s, -, hx⟩ := List.mem_filterMap.mp hx
  rw [he]
  exact sectionProblem?_message hx _ first _

/-! ## Directories -/

/-- The template files of a directory under a configuration. -/
def templateFiles (disk : Disk) (root : String) (config : Config) :
    Except Error (List FoundFile) :=
  match Discovery.ofConfig config with
  | .error e => .error e
  | .ok discovery => discovery.files disk root

section Directory

variable {disk : Disk} {root : String} {config : Config}

lemma validate_of_isDirectory (config : Config) (h : disk.isDirectory root = true) :
    validate disk root config =
      match templateFiles disk root config with
      | .error e => .error e
      | .ok files => .ok (problems files) := by
  simp only [validate, validatedFiles, templateFiles, h, Disk.isFile_of_isDirectory h]
  rfl

lemma load_of_isDirectory (config : Config) (h : disk.isDirectory root = true) :
    (∃ e, templateFiles disk root config = .error e ∧
        Library.load disk root config = .error e) ∨
      ∃ files, templateFiles disk root config = .ok files ∧
        ((∃ e, Library.storeOf files = .error e ∧ Library.load disk root config = .error e) ∨
          ∃ library, Library.storeOf files = .ok library.store ∧
            Library.load disk root config = .ok library) := by
  simp only [Library.load, templateFiles, h, Bool.not_true, Bool.false_eq_true, if_false]
  cases Discovery.ofConfig config with
  | error e => exact .inl ⟨e, rfl, rfl⟩
  | ok discovery =>
      cases hfiles : discovery.files disk root with
      | error e => exact .inl ⟨e, hfiles, by simp only [hfiles]⟩
      | ok files =>
          refine .inr ⟨files, hfiles, ?_⟩
          cases hstore : Library.storeOf files with
          | error e => exact .inl ⟨e, rfl, by simp only [hfiles, hstore]⟩
          | ok store =>
              exact .inr ⟨⟨store, some ⟨root, discovery, Discovery.stamps root files⟩⟩, rfl,
                by simp only [hfiles, hstore]⟩

/-- What keeps template files from being found is no fault of a file. -/
lemma templateFiles_error {e : Error} (h : templateFiles disk root config = .error e) :
    (∃ objection, e = .badGlob objection) ∨ ∃ fault, e = .unsearchable root fault := by
  rw [templateFiles] at h
  split at h
  · rename_i e' hconfig
    cases h
    rw [Discovery.ofConfig] at hconfig
    split at hconfig
    · rename_i e' hbad
      cases hconfig
      exact .inl (Globs.ofTexts_error hbad)
    · split at hconfig
      · rename_i e' hbad
        cases hconfig
        exact .inl (Globs.ofTexts_error hbad)
      · cases hconfig
  · rename_i discovery _
    rw [Discovery.files] at h
    split at h
    · exact .inr ⟨_, (Except.error.inj h).symm⟩
    · cases h

end Directory

/-- The trouble that keeps files out of a store is told by validation as well: a file that cannot be
read with its line and wording, a repeated identity with its wording at the second file. -/
lemma problems_of_storeOf_error {files : List FoundFile} {e : Error}
    (h : Library.storeOf files = .error e) :
    (∀ file line problem, e = .malformed file line problem →
        ⟨file, line, problem⟩ ∈ problems files) ∧
      (∀ key first second, e = .duplicate key first second →
        ∃ line, ⟨second, line, e.message⟩ ∈ problems files) ∧
        problems files ≠ [] := by
  rw [Library.storeOf] at h
  split at h
  · rename_i e' hunread
    cases h
    obtain ⟨f, hf, hmem⟩ := problems_of_unread hunread
    refine ⟨?_, ?_, List.ne_nil_of_mem hmem⟩
    · rintro file line problem rfl
      exact hmem
    · rintro key first second rfl
      rcases definition_cases f with ⟨d, hd, -⟩ | ⟨_, he⟩ | ⟨_, _, _, he⟩ <;> simp [hf] at *
  · rename_i ds hds
    obtain ⟨key, first, second, line, rfl, hmem⟩ := problems_of_repeated hds h
    refine ⟨by simp, ?_, List.ne_nil_of_mem hmem⟩
    rintro _ _ _ ⟨⟩
    exact ⟨line, hmem⟩

/-- What validation finds in a directory is what keeps it from loading without trouble. -/
structure Agreement (disk : Disk) (root : String) (config : Config) : Prop where
  /-- There are no problems exactly if the directory loads into a store without trouble. -/
  clean : validate disk root config = .ok [] ↔
    ∃ library, Library.load disk root config = .ok library ∧ library.store.Flawless
  /-- A file that fails loading, as it is no document or one of the wrong shape, is told with the
  line and the wording of that error. -/
  malformed : ∀ file line problem,
    Library.load disk root config = .error (.malformed file line problem) →
      ∃ ds, validate disk root config = .ok ds ∧ ⟨file, line, problem⟩ ∈ ds
  /-- A repeated identity that fails loading is told with its wording at the second file. -/
  repeated : ∀ key first second,
    Library.load disk root config = .error (.duplicate key first second) →
      ∃ ds line, validate disk root config = .ok ds ∧
        ⟨second, line, (Error.duplicate key first second).message⟩ ∈ ds

end Validation

open Validation in
/-- **Validation agrees with loading**, for every directory and every configuration, whatever the
readers object to texts that are no documents. -/
theorem validate_agrees_with_load [Objections] {disk : Disk} {root : String} (config : Config)
    (hroot : disk.isDirectory root = true) : Agreement disk root config := by
  have hvalidate := validate_of_isDirectory config hroot
  rcases load_of_isDirectory config hroot with
    ⟨e, hfiles, hload⟩ | ⟨files, hfiles, ⟨e, hstore, hload⟩ | ⟨library, hstore, hload⟩⟩
  · -- no files were found, which is no fault of a file
    have hshape := templateFiles_error hfiles
    constructor <;> rcases hshape with ⟨_, rfl⟩ | ⟨_, rfl⟩ <;> simp [hvalidate, hfiles, hload]
  · obtain ⟨hmalformed, hduplicate, hne⟩ := problems_of_storeOf_error hstore
    simp only [hfiles] at hvalidate
    constructor
    · simp [hvalidate, hload, hne]
    · intro file line problem h
      exact ⟨_, hvalidate, hmalformed file line problem (Except.error.inj (hload ▸ h))⟩
    · intro key first second h
      obtain rfl : e = .duplicate key first second := Except.error.inj (hload ▸ h)
      obtain ⟨line, hmem⟩ := hduplicate key first second rfl
      exact ⟨_, line, hvalidate, hmem⟩
  · simp only [hfiles] at hvalidate
    constructor
    · simpa [hvalidate, hload] using problems_of_storeOf_ok hstore
    all_goals simp [hload]

/-! ## Directories that do not load -/

/-- What a reader of documents objects to a text that ends within brackets. -/
def bracketObjection : Objection :=
  ⟨some 3, "did not find expected node content at line 3 column 1, while parsing a flow node"⟩

/-- Readers, as far as such texts are concerned. -/
@[reducible] def bracketReaders : Objections :=
  { Objections.terse with definition := fun _ => bracketObjection }

attribute [local instance] bracketReaders

/-- A directory with two files. -/
def twoFiles (a b : String) : Disk :=
  { top :=
      .directory
        [("tpl", .directory [("a.yaml", .file (some a) 0), ("b.yaml", .file (some b) 0)])],
    working := [] }

/-- A directory in which two files define the same fragment. -/
def pairDisk : Disk := twoFiles "fragment: a\nversion: 1\n" "fragment: a\nversion: 2\n"

/-- A directory in which the second file ends within brackets. -/
def bracketDisk : Disk := twoFiles "fragment: a\nversion: 1\n" "platform: jira\nsections: [\n"

lemma load_eq_error {disk : Disk} {e : Error}
    (h : Error.of? (Library.load disk "tpl" {}) = some e) :
    Library.load disk "tpl" {} = .error e := by
  cases hload : Library.load disk "tpl" {} with
  | ok library => simp [hload, Error.of?] at h
  | error e' => simpa [hload, Error.of?] using h

lemma load_pairDisk :
    Library.load pairDisk "tpl" {} =
      .error (.duplicate "fragment:a" "tpl/a.yaml" "tpl/b.yaml") :=
  load_eq_error (by decide +kernel)

lemma load_bracketDisk :
    Library.load bracketDisk "tpl" {} =
      .error (.malformed "tpl/b.yaml" 3 bracketObjection.wording) :=
  load_eq_error (by decide +kernel)

theorem validate_agrees_with_load_pair :
    pairDisk.isDirectory "tpl" = true ∧
      Library.load pairDisk "tpl" {} =
        .error (.duplicate "fragment:a" "tpl/a.yaml" "tpl/b.yaml") ∧
      Validation.Agreement pairDisk "tpl" {} ∧
      (∃ ds line, validate pairDisk "tpl" {} = .ok ds ∧
        ⟨"tpl/b.yaml", line,
          (Error.duplicate "fragment:a" "tpl/a.yaml" "tpl/b.yaml").message⟩ ∈ ds) ∧
      bracketDisk.isDirectory "tpl" = true ∧
      Library.load bracketDisk "tpl" {} =
        .error (.malformed "tpl/b.yaml" 3 bracketObjection.wording) ∧
      ∃ ds, validate bracketDisk "tpl" {} = .ok ds ∧
        ⟨"tpl/b.yaml", 3, bracketObjection.wording⟩ ∈ ds := by
  have hpair : pairDisk.isDirectory "tpl" = true := by decide
  have hbracket : bracketDisk.isDirectory "tpl" = true := by decide
  have hagree := validate_agrees_with_load {} hpair
  exact ⟨hpair, load_pairDisk, hagree, hagree.repeated _ _ _ load_pairDisk, hbracket,
    load_bracketDisk,
    (validate_agrees_with_load {} hbracket).malformed _ _ _ load_bracketDisk⟩

end Docket
