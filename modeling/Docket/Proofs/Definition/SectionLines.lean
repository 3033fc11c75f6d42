import Docket.Definition.Read
import Docket.Proofs.Path.Display
import Docket.Template.Argument

/-!
# Finding the line of a section

The line of a section is found by looking for its name in the text of the file, line by line, and not
by reading the document.  So a line of text can be taken for the declaration of a section, if it
reads like one (`Announces`): a body may well have a line `name: Notes`.

`lineOfSection_written` says when the line that is found is the right one, for files as they are
written (`fileText`): no line of the header and no line of the body of an earlier section may
announce the name.  The line that is found never comes too late.  `lineOfSection_announced` shows a
file where it comes too early.
-/

namespace Docket

/-! ## Lines of a text -/

namespace Text

/-- Lines with a line feed behind each of them. -/
def ended (lines : List (List Char)) : List Char := lines.flatMap (· ++ ['\n'])

lemma splitAll_ended {ls : List (List Char)} (h : ∀ l ∈ ls, '\n' ∉ l) :
    splitAll (· == '\n') (ended ls) = ls ++ [[]] := by
  induction ls with
  | nil => rfl
  | cons l ls ih =>
      obtain ⟨hl, hls⟩ := List.forall_mem_cons.mp h
      have hfree : ∀ c ∈ l, (c == '\n') = false := fun c hc => by
        rw [beq_eq_false_iff_ne]
        rintro rfl
        exact hl hc
      have hshape : ended (l :: ls) = l ++ '\n' :: ended ls := by simp [ended]
      rw [hshape, splitAll_append_cons hfree rfl, ih hls, List.cons_append]

/-- The lines of a text that has been written line by line: what is lost is at most a carriage return
at the end of a line. -/
lemma lines_ended {ls : List (List Char)} (h : ∀ l ∈ ls, '\n' ∉ l) :
    lines (ended ls) = ls.map dropReturn := by
  simp [lines, splitAll_ended h]

lemma eq_or_eq_dropReturn (line : List Char) :
    line = dropReturn line ∨ line = dropReturn line ++ ['\r'] := by
  rw [dropReturn]
  split
  · rename_i rest hreverse
    exact .inr (by rw [← List.reverse_cons, ← hreverse, List.reverse_reverse])
  · exact .inl rfl

end Text

/-! ## Lines that announce a name -/

namespace Definition

/-- A line announces a name if it has `name:` and the name, which may be in quotes, and in front of
that at most white space and the hyphens of items. -/
def Announces (name line : List Char) : Prop :=
  ∃ indent hyphens gap space opening closing rest,
    line = indent ++ (List.replicate hyphens ['-', ' ']).flatten ++ gap ++ "name:".toList ++ space ++
      opening ++ name ++ closing ++ rest ∧
    (∀ c ∈ indent ++ gap ++ space ++ rest, Text.isBlank c) ∧
    ∀ c ∈ opening ++ closing, Template.isQuote c

/-- The name that a line is taken to announce. -/
def announced? (line : List Char) : Option (List Char) :=
  (Text.dropStart? "name:".toList (Text.trim (dropHyphens (Text.trimStart line)))).map fun value =>
    Text.dropEndWhile Template.isQuote ((Text.trim value).dropWhile Template.isQuote)

lemma declaresName_iff {name : String} {line : List Char} :
    declaresName name line ↔ announced? line = some name.toList := by
  rw [announced?]
  cases hvalue : Text.dropStart? "name:".toList (Text.trim (dropHyphens (Text.trimStart line))) with
  | none => simp only [declaresName, hvalue, Bool.false_eq_true, Option.map_none, reduceCtorEq]
  | some value =>
      simp only [declaresName, hvalue, decide_eq_true_eq, Option.map_some, Option.some.injEq]
      exact Iff.rfl

lemma exists_dropHyphens (cs : List Char) :
    ∃ hyphens, cs = (List.replicate hyphens ['-', ' ']).flatten ++ dropHyphens cs := by
  fun_induction dropHyphens cs with
  | case1 rest ih =>
      obtain ⟨hyphens, hrest⟩ := ih
      refine ⟨hyphens + 1, ?_⟩
      conv_lhs => rw [hrest]
      simp [List.replicate_succ]
  | case2 line => exact ⟨0, rfl⟩

lemma dropHyphens_replicate (hyphens : Nat) {cs : List Char} (h : cs.head? ≠ some '-') :
    dropHyphens ((List.replicate hyphens ['-', ' ']).flatten ++ cs) = cs := by
  induction hyphens with
  | zero =>
      rw [List.replicate_zero, List.flatten_nil, List.nil_append]
      unfold dropHyphens
      split
      · simp at h
      · rfl
  | succ hyphens ih =>
      rw [List.replicate_succ, List.flatten_cons, List.append_assoc]
      exact ih

/-- What is dropped around a text in quotes. -/
lemma exists_dropQuotes (cs : List Char) :
    ∃ opening closing,
      cs = opening ++ Text.dropEndWhile Template.isQuote (cs.dropWhile Template.isQuote) ++ closing ∧
      ∀ c ∈ opening ++ closing, Template.isQuote c := by
  refine ⟨cs.takeWhile Template.isQuote,
    (cs.dropWhile Template.isQuote).rtakeWhile Template.isQuote, ?_, ?_⟩
  · have hend : Text.dropEndWhile Template.isQuote (cs.dropWhile Template.isQuote) ++
        (cs.dropWhile Template.isQuote).rtakeWhile Template.isQuote =
          cs.dropWhile Template.isQuote := List.rdropWhile_append_rtakeWhile
    rw [List.append_assoc, hend, List.takeWhile_append_dropWhile]
  · exact List.forall_mem_append.mpr
      ⟨fun c => List.mem_takeWhile_imp, fun c => List.mem_rtakeWhile_imp⟩

/-- A line is taken to announce only what it does announce. -/
lemma announces_of_announced? {name line : List Char} (h : announced? line = some name) :
    Announces name line := by
  obtain ⟨value, hvalue, rfl⟩ := Option.map_eq_some_iff.mp h
  rw [Text.dropStart?_eq_some_iff] at hvalue
  have hline : line.takeWhile Text.isBlank ++ Text.trimStart line = line :=
    List.takeWhile_append_dropWhile
  obtain ⟨hyphens, hitems⟩ := exists_dropHyphens (Text.trimStart line)
  obtain ⟨gap, after, hentry, hgap, hafter⟩ := Text.exists_trim (dropHyphens (Text.trimStart line))
  obtain ⟨space, rest, hspaced, hspace, hrest⟩ := Text.exists_trim value
  obtain ⟨opening, closing, hquoted, hquotes⟩ := exists_dropQuotes (Text.trim value)
  refine ⟨line.takeWhile Text.isBlank, hyphens, gap, space, opening, closing, rest ++ after, ?_, ?_,
    hquotes⟩
  · rw [hvalue, hspaced] at hentry
    refine hline.symm.trans ?_
    rw [hitems, hentry]
    conv_lhs => rw [hquoted]
    simp only [List.append_assoc]
  · simp only [List.forall_mem_append]
    exact ⟨⟨⟨fun c => List.mem_takeWhile_imp, hgap⟩, hspace⟩, hrest, hafter⟩

/-- A name without white space and quotes. -/
def Bare (name : List Char) : Prop :=
  ∀ c ∈ name, Text.isBlank c = false ∧ Template.isQuote c = false

lemma isBlank_of_isQuote {c : Char} (h : Template.isQuote c) : Text.isBlank c = false := by
  simp only [Template.isQuote, Bool.or_eq_true, decide_eq_true_eq] at h
  rcases h with rfl | rfl <;> rfl

/-- Behind the hyphens of items there is at most white space before an entry. -/
lemma exists_gap {indent gap : List Char} {c : Char} (entry : List Char) (hyphens : Nat)
    (hindent : ∀ c ∈ indent, Text.isBlank c) (hgap : ∀ c ∈ gap, Text.isBlank c)
    (hblank : Text.isBlank c = false) (hhyphen : c ≠ '-') :
    ∃ gap', (∀ c ∈ gap', Text.isBlank c) ∧
      dropHyphens (Text.trimStart (indent ++ (List.replicate hyphens ['-', ' ']).flatten ++ gap ++
        c :: entry)) = gap' ++ c :: entry := by
  cases hyphens with
  | zero =>
      have hstart : Text.trimStart (indent ++ gap ++ c :: entry) = c :: entry := by
        rw [Text.trimStart,
          List.dropWhile_append_of_pos (List.forall_mem_append.mpr ⟨hindent, hgap⟩)]
        simp [hblank]
      have hentry : dropHyphens (c :: entry) = c :: entry :=
        dropHyphens_replicate 0 (by simpa using hhyphen)
      refine ⟨[], List.forall_mem_nil _, ?_⟩
      rw [List.replicate_zero, List.flatten_nil, List.append_nil, hstart, hentry, List.nil_append]
  | succ hyphens =>
      have hstart : Text.trimStart (indent ++ ((List.replicate (hyphens + 1) ['-', ' ']).flatten ++
          (gap ++ c :: entry))) =
            (List.replicate (hyphens + 1) ['-', ' ']).flatten ++ (gap ++ c :: entry) := by
        rw [Text.trimStart, List.dropWhile_append_of_pos hindent]
        rfl
      have hhead : (gap ++ c :: entry).head? ≠ some '-' := by
        cases gap with
        | nil => simpa using hhyphen
        | cons d gap =>
            rintro ⟨⟩
            exact absurd (hgap '-' List.mem_cons_self) (by decide)
      refine ⟨gap, hgap, ?_⟩
      rw [List.append_assoc, List.append_assoc, hstart, dropHyphens_replicate _ hhead]

/-- A value that stands behind a mark, with white space around it. -/
lemma exists_value {mark space core rest : List Char} (hmark : Text.Trimmed mark) (hne : mark ≠ [])
    (hspace : ∀ c ∈ space, Text.isBlank c) (hcore : Text.Trimmed core)
    (hrest : ∀ c ∈ rest, Text.isBlank c) :
    ∃ value, Text.trim (mark ++ (space ++ core ++ rest)) = mark ++ value ∧
      Text.trim value = core := by
  by_cases hempty : core = []
  · subst hempty
    refine ⟨[], ?_, rfl⟩
    rw [List.append_nil, List.append_nil]
    exact Text.trim_append_right hmark hne (List.forall_mem_append.mpr ⟨hspace, hrest⟩)
  · have hentry : Text.Trimmed (mark ++ space ++ core) := hmark.append hne hcore hempty space
    have hne' : mark ++ space ++ core ≠ [] := by simp [hempty]
    refine ⟨space ++ core, ?_, ?_⟩
    · rw [← List.append_assoc, ← List.append_assoc, Text.trim_append_right hentry hne' hrest,
        List.append_assoc]
    · rw [Text.trim_append_left hspace, Text.trim_of_trimmed hcore]

lemma dropEndWhile_append {p : Char → Bool} {name closing : List Char}
    (hname : ∀ c ∈ name, p c = false) (hclosing : ∀ c ∈ closing, p c) :
    Text.dropEndWhile p (name ++ closing) = name := by
  have hreverse : ∀ c ∈ closing.reverse, p c := fun c hc => hclosing c (List.mem_reverse.mp hc)
  rw [Text.dropEndWhile, List.reverse_append, List.dropWhile_append_of_pos hreverse]
  cases name using List.reverseRecOn with
  | nil => rfl
  | append_singleton front c =>
      have hc := hname c (by simp)
      simp [hc]

/-- A name without quotes is what is left of it in quotes. -/
lemma dropQuotes_eq {opening name closing : List Char} (hname : Bare name)
    (hopening : ∀ c ∈ opening, Template.isQuote c) (hclosing : ∀ c ∈ closing, Template.isQuote c) :
    Text.dropEndWhile Template.isQuote
      ((opening ++ name ++ closing).dropWhile Template.isQuote) = name := by
  rw [List.append_assoc, List.dropWhile_append_of_pos hopening]
  cases name with
  | nil =>
      rw [List.nil_append, List.dropWhile_eq_nil_iff.mpr hclosing]
      rfl
  | cons c name =>
      have hc := (hname c List.mem_cons_self).2
      rw [List.cons_append, List.dropWhile_cons_of_neg (by simp [hc]), ← List.cons_append]
      exact dropEndWhile_append (fun c hc => (hname c hc).2) hclosing

/-- A bare name that a line announces is the one it is taken to announce. -/
lemma announced?_of_announces {name line : List Char} (hname : Bare name)
    (h : Announces name line) : announced? line = some name := by
  obtain ⟨indent, hyphens, gap, space, opening, closing, rest, rfl, hblanks, hquotes⟩ := h
  simp only [List.forall_mem_append] at hblanks hquotes
  obtain ⟨⟨⟨hindent, hgap⟩, hspace⟩, hrest⟩ := hblanks
  obtain ⟨hopening, hclosing⟩ := hquotes
  have hcore : Text.Trimmed (opening ++ name ++ closing) := by
    refine Text.trimmed_of_forall ?_
    simp only [List.forall_mem_append]
    exact ⟨⟨fun c hc => isBlank_of_isQuote (hopening c hc), fun c hc => (hname c hc).1⟩,
      fun c hc => isBlank_of_isQuote (hclosing c hc)⟩
  obtain ⟨gap', hgap', hitem⟩ := exists_gap ("ame:".toList ++ (space ++
    (opening ++ name ++ closing) ++ rest)) hyphens hindent hgap (c := 'n') rfl (by decide)
  have hmark : Text.Trimmed "name:".toList := Text.trimmed_of_all (by decide)
  obtain ⟨value, hvalue, hbare⟩ := exists_value hmark (by decide) hspace hcore hrest
  have hline : indent ++ (List.replicate hyphens ['-', ' ']).flatten ++ gap ++ "name:".toList ++
      space ++ opening ++ name ++ closing ++ rest =
        indent ++ (List.replicate hyphens ['-', ' ']).flatten ++ gap ++
          'n' :: ("ame:".toList ++ (space ++ (opening ++ name ++ closing) ++ rest)) := by
    simp
  have htrim : Text.trim (gap' ++
      'n' :: ("ame:".toList ++ (space ++ (opening ++ name ++ closing) ++ rest))) =
        "name:".toList ++ value := by
    rw [Text.trim_append_left hgap']
    exact hvalue
  rw [announced?, hline, hitem, htrim, Text.dropStart?_eq_some_iff.mpr rfl, Option.map_some, hbare,
    dropQuotes_eq hname hopening hclosing]

lemma announces_iff {name line : List Char} (hname : Bare name) :
    Announces name line ↔ announced? line = some name :=
  ⟨announced?_of_announces hname, announces_of_announced?⟩

/-- Indentation does not matter. -/
lemma announced?_append_left {indent : List Char} (h : ∀ c ∈ indent, Text.isBlank c)
    (line : List Char) : announced? (indent ++ line) = announced? line := by
  rw [announced?, Text.trimStart, List.dropWhile_append_of_pos h, ← Text.trimStart, announced?]

lemma dropHyphens_append_return (cs : List Char) :
    dropHyphens (cs ++ ['\r']) = dropHyphens cs ++ ['\r'] := by
  fun_induction dropHyphens cs with
  | case1 rest ih => simpa [dropHyphens] using ih
  | case2 line hline =>
      refine dropHyphens.eq_2 _ fun rest h => ?_
      match line with
      | [] => cases h
      | [c] => simp at h
      | c :: d :: line =>
          obtain ⟨rfl, rfl, -⟩ : c = '-' ∧ d = ' ' ∧ line ++ ['\r'] = rest := by simpa using h
          exact hline line rfl

/-- A carriage return at the end does not matter. -/
lemma announced?_dropReturn (line : List Char) :
    announced? (Text.dropReturn line) = announced? line := by
  have hreturn : ∀ c ∈ ['\r'], Text.isBlank c := List.forall_mem_singleton.mpr rfl
  rcases Text.eq_or_eq_dropReturn line with hline | hline
  · rw [← hline]
  · conv_rhs => rw [hline]
    generalize Text.dropReturn line = front
    rw [announced?, announced?, Text.trimStart, Text.trimStart, List.dropWhile_append]
    split
    · rename_i hempty
      rw [List.isEmpty_iff.mp hempty]
      rfl
    · rw [dropHyphens_append_return, Text.trim_append_blanks hreturn]

/-! ## Files as they are written -/

/-- A section as it is written: its name and the lines of its body. -/
structure WrittenSection where
  name : String
  body : List (List Char)

/-- The line that declares a section. -/
def WrittenSection.declaration (s : WrittenSection) : List Char :=
  "  - name: ".toList ++ s.name.toList

lemma WrittenSection.declaration_eq (s : WrittenSection) :
    s.declaration = "  - name: ".toList ++ s.name.toList := rfl

/-- The lines of a section. -/
def WrittenSection.lines (s : WrittenSection) : List (List Char) :=
  s.declaration :: "    body: |".toList :: s.body.map ("      ".toList ++ ·)

/-- The lines of a file: those of its header, and its sections. -/
def fileLines (header : List (List Char)) (sections : List WrittenSection) : List (List Char) :=
  header ++ "sections:".toList :: sections.flatMap WrittenSection.lines

/-- The text of a file. -/
def fileText (header : List (List Char)) (sections : List WrittenSection) : String :=
  String.ofList (Text.ended (fileLines header sections))

/-- The line, counted from one, that declares the section behind some others. -/
def declarationLine (header : List (List Char)) (before : List WrittenSection) : Nat :=
  (fileLines header before).length + 1

lemma fileLines_append (header : List (List Char)) (before : List WrittenSection)
    (s : WrittenSection) (after : List WrittenSection) :
    fileLines header (before ++ s :: after) = fileLines header before ++ s.declaration ::
      ("    body: |".toList :: s.body.map ("      ".toList ++ ·) ++
        after.flatMap WrittenSection.lines) := by
  simp [fileLines, WrittenSection.lines]

/-- The first element that passes a test, in front of one that does. -/
lemma findIdx_append_cons {α : Type} {p : α → Bool} {x : α} (hx : p x) (front rest : List α) :
    (front ++ x :: rest).findIdx p ≤ front.length ∧
      ((front ++ x :: rest).findIdx p = front.length ↔ ∀ y ∈ front, p y = false) := by
  have hzero : (x :: rest).findIdx p = 0 := by simp [List.findIdx_cons, hx]
  have hnone : (¬ front.findIdx p < front.length) ↔ ∀ y ∈ front, p y = false := by
    simp [List.findIdx_lt_length]
  rw [List.findIdx_append, hzero, ← hnone]
  split <;> omega

/-! ## The line that is found -/

/-- The line of a section is the first one that is taken for its declaration. -/
lemma lineOfSection_fileText {header : List (List Char)} {before after : List WrittenSection}
    {s : WrittenSection}
    (hlines : ∀ line ∈ fileLines header (before ++ s :: after), '\n' ∉ line)
    (hdeclared : announced? s.declaration = some s.name.toList) :
    lineOfSection (fileText header (before ++ s :: after)) s.name =
      (fileLines header (before ++ s :: after)).findIdx (declaresName s.name) + 1 := by
  have hreturn : declaresName s.name ∘ Text.dropReturn = declaresName s.name := by
    funext line
    rw [Function.comp_apply, Bool.eq_iff_iff, declaresName_iff, declaresName_iff,
      announced?_dropReturn]
  have hmem : s.declaration ∈ fileLines header (before ++ s :: after) := by
    rw [fileLines_append]
    exact List.mem_append_right _ List.mem_cons_self
  have hfound : (fileLines header (before ++ s :: after)).findIdx? (declaresName s.name) =
      some ((fileLines header (before ++ s :: after)).findIdx (declaresName s.name)) :=
    List.findIdx?_eq_some_iff_findIdx_eq.mpr
      ⟨List.findIdx_lt_length.mpr ⟨_, hmem, declaresName_iff.mpr hdeclared⟩, rfl⟩
  rw [lineOfSection, findLine?, fileText, String.toList_ofList, Text.lines_ended hlines,
    List.findIdx?_map, hreturn, hfound]
  rfl

/-- Letters are neither white space nor quotes. -/
lemma bare_of_letters {name : List Char} (h : ∀ c ∈ name, Text.isAlphabetic c) : Bare name := by
  intro c hc
  have hpath : Path.isPathChar c := by
    simp [Path.isPathChar, Path.isNameChar, Text.isAlphanumeric, h c hc]
  refine ⟨Bool.eq_false_iff.mpr fun hblank => ?_, Bool.eq_false_iff.mpr fun hquote => ?_⟩
  · simp [Path.isPathChar_of_isBlank hblank] at hpath
  · have hmark : c ∈ Path.outerMarks := by
      simp only [Template.isQuote, Bool.or_eq_true, decide_eq_true_eq] at hquote
      rcases hquote with rfl | rfl <;> decide
    simp [Path.isPathChar_of_mem_outerMarks c hmark] at hpath

lemma letters_of_all {sections : List WrittenSection}
    (h : sections.all fun t => t.name.toList.all Text.isAlphabetic) :
    ∀ t ∈ sections, ∀ c ∈ t.name.toList, Text.isAlphabetic c :=
  fun t ht => List.all_eq_true.mp (List.all_eq_true.mp h t ht)

section

variable {name : List Char} (hname : Bare name)

include hname

lemma announces_declaration_iff {t : WrittenSection} (ht : Bare t.name.toList) :
    Announces name t.declaration ↔ t.name.toList = name := by
  have hline : t.declaration = [' ', ' '] ++ (List.replicate 1 ['-', ' ']).flatten ++ [] ++
      "name:".toList ++ [' '] ++ [] ++ t.name.toList ++ [] ++ [] := by
    simp [WrittenSection.declaration_eq]
  have hown : announced? t.declaration = some t.name.toList :=
    (announces_iff ht).mp
      ⟨[' ', ' '], 1, [], [' '], [], [], [], hline, List.all_eq_true.mp (by decide),
        List.forall_mem_nil _⟩
  rw [announces_iff hname, hown, Option.some.injEq]

lemma announces_indented_iff {line : List Char} :
    Announces name ("      ".toList ++ line) ↔ Announces name line := by
  have hblank : ∀ c ∈ "      ".toList, Text.isBlank c := List.all_eq_true.mp (by decide)
  rw [announces_iff hname, announces_iff hname, announced?_append_left hblank]

/-- In front of a section, only lines of the header and of bodies can announce its name. -/
lemma forall_fileLines_iff {header : List (List Char)} {before : List WrittenSection}
    (hbefore : ∀ t ∈ before, Bare t.name.toList ∧ t.name.toList ≠ name) :
    (∀ line ∈ fileLines header before, ¬ Announces name line) ↔
      ∀ line ∈ header ++ before.flatMap (·.body), ¬ Announces name line := by
  have hsections : ¬ Announces name "sections:".toList := by
    rw [announces_iff hname, show announced? "sections:".toList = none by decide]
    exact nofun
  have hbody : ¬ Announces name "    body: |".toList := by
    rw [announces_iff hname, show announced? "    body: |".toList = none by decide]
    exact nofun
  have hsection : ∀ t ∈ before,
      (∀ line ∈ t.lines, ¬ Announces name line) ↔ ∀ line ∈ t.body, ¬ Announces name line := by
    intro t ht
    obtain ⟨hbare, hother⟩ := hbefore t ht
    have hdeclaration : ¬ Announces name t.declaration :=
      mt (announces_declaration_iff hname hbare).mp hother
    simp only [WrittenSection.lines, List.forall_mem_cons, List.forall_mem_map,
      announces_indented_iff hname]
    exact ⟨fun h => h.2.2, fun h => ⟨hdeclaration, hbody, h⟩⟩
  simp only [fileLines, List.forall_mem_append, List.forall_mem_cons, List.forall_mem_flatMap]
  refine and_congr_right fun _ => ?_
  exact ⟨fun h t ht => (hsection t ht).mp (h.2 t ht),
    fun h => ⟨hsections, fun t ht => (hsection t ht).mpr (h t ht)⟩⟩

end

/-- The lines of a file are lines if those of the header and of the bodies are, and the names are
bare. -/
lemma not_mem_fileLines {header : List (List Char)} {sections : List WrittenSection}
    (hlines : ∀ line ∈ header ++ sections.flatMap (·.body), '\n' ∉ line)
    (hbare : ∀ t ∈ sections, Bare t.name.toList) :
    ∀ line ∈ fileLines header sections, '\n' ∉ line := by
  obtain ⟨hheader, hbodies⟩ := List.forall_mem_append.mp hlines
  have hsection : ∀ t ∈ sections, ∀ line ∈ t.lines, '\n' ∉ line := by
    intro t ht
    have hname : '\n' ∉ t.name.toList := fun hmem => absurd (hbare t ht '\n' hmem).1 (by decide)
    have hdeclaration : '\n' ∉ t.declaration := by
      simp [WrittenSection.declaration_eq, hname]
    have hbody : ∀ line ∈ t.body, '\n' ∉ "      ".toList ++ line := fun line hline => by
      simp [hbodies line (List.mem_flatMap.mpr ⟨t, ht, hline⟩)]
    exact List.forall_mem_cons.mpr ⟨hdeclaration, List.forall_mem_cons.mpr
      ⟨by simp, List.forall_mem_map.mpr hbody⟩⟩
  exact List.forall_mem_append.mpr
    ⟨hheader, List.forall_mem_cons.mpr ⟨by simp, List.forall_mem_flatMap.mpr hsection⟩⟩

/-- **When the line of a section is found.**  In a file with sections of different names, the line
that is found for a section does not come behind the one that declares it; and it is that line
exactly if no line of the header and no line of the body of an earlier section announces the name. -/
theorem lineOfSection_written (header : List (List Char)) (before : List WrittenSection)
    (s : WrittenSection) (after : List WrittenSection)
    (hlines : ∀ line ∈ header ++ (before ++ s :: after).flatMap (·.body), '\n' ∉ line)
    (hletters : ∀ t ∈ before ++ s :: after, ∀ c ∈ t.name.toList, Text.isAlphabetic c)
    (hdistinct : ((before ++ s :: after).map (·.name)).Nodup) :
    lineOfSection (fileText header (before ++ s :: after)) s.name ≤
        declarationLine header before ∧
      (lineOfSection (fileText header (before ++ s :: after)) s.name =
          declarationLine header before ↔
        ∀ line ∈ header ++ before.flatMap (·.body), ¬ Announces s.name.toList line) := by
  have hbare : ∀ t ∈ before ++ s :: after, Bare t.name.toList :=
    fun t ht => bare_of_letters (hletters t ht)
  have hs : Bare s.name.toList := hbare s (by simp)
  have hdeclared : announced? s.declaration = some s.name.toList :=
    (announces_iff hs).mp ((announces_declaration_iff hs hs).mpr rfl)
  have hbefore : ∀ t ∈ before, Bare t.name.toList ∧ t.name.toList ≠ s.name.toList := by
    intro t ht
    refine ⟨hbare t (List.mem_append_left _ ht), fun hsame => ?_⟩
    rw [List.map_append, List.map_cons, List.nodup_append] at hdistinct
    exact hdistinct.2.2 t.name (List.mem_map_of_mem ht) s.name List.mem_cons_self
      (String.toList_inj.mp hsame)
  have htaken (line : List Char) :
      declaresName s.name line = false ↔ ¬ Announces s.name.toList line := by
    rw [announces_iff hs, ← declaresName_iff, Bool.not_eq_true]
  have hfirst := findIdx_append_cons (declaresName_iff.mpr hdeclared) (fileLines header before)
    ("    body: |".toList :: s.body.map ("      ".toList ++ ·) ++
      after.flatMap WrittenSection.lines)
  simp only [htaken, forall_fileLines_iff hs hbefore] at hfirst
  rw [lineOfSection_fileText (not_mem_fileLines hlines hbare) hdeclared, declarationLine,
    Nat.add_right_cancel_iff, Nat.add_le_add_iff_right, fileLines_append]
  exact hfirst

/-- The header of a fragment. -/
def notesHeader : List (List Char) := ["fragment: notes".toList, "version: 1".toList]

/-- A body that has the mark of a name in it, other names, and the name with something in front. -/
theorem lineOfSection_written_mentioned :
    let before : List WrittenSection := [⟨"Summary", ["the name: Notes".toList, "- name: Other".toList]⟩]
    let s : WrittenSection := ⟨"Notes", ["name: Notes".toList]⟩
    (∀ line ∈ notesHeader ++ (before ++ [s]).flatMap (·.body), '\n' ∉ line) ∧
      (∀ t ∈ before ++ [s], ∀ c ∈ t.name.toList, Text.isAlphabetic c) ∧
      ((before ++ [s]).map (·.name)).Nodup ∧
      lineOfSection (fileText notesHeader (before ++ [s])) "Notes" =
        declarationLine notesHeader before := by
  intro before s
  have hlines : ∀ line ∈ notesHeader ++ (before ++ [s]).flatMap (·.body), '\n' ∉ line := by
    decide +kernel
  have hletters : ∀ t ∈ before ++ [s], ∀ c ∈ t.name.toList, Text.isAlphabetic c :=
    letters_of_all (by decide +kernel)
  have hdistinct : ((before ++ [s]).map (·.name)).Nodup := by decide +kernel
  have hbare : Bare "Notes".toList := bare_of_letters (hletters s (by simp))
  have hquiet : ∀ line ∈ notesHeader ++ before.flatMap (·.body), ¬ Announces "Notes".toList line := by
    intro line hline
    rw [announces_iff hbare]
    revert line
    decide +kernel
  exact ⟨hlines, hletters, hdistinct,
    (lineOfSection_written notesHeader before s [] hlines hletters hdistinct).2.mpr hquiet⟩

/-- A line of the first body reads like the declaration of the second section, and it is the line
that is found. -/
theorem lineOfSection_announced :
    let before : List WrittenSection := [⟨"Summary", ["name: Notes".toList]⟩]
    let s : WrittenSection := ⟨"Notes", ["none".toList]⟩
    (∀ line ∈ notesHeader, Text.dropStart? "name:".toList (Text.trim line) = none) ∧
      (∀ line ∈ notesHeader ++ (before ++ [s]).flatMap (·.body), '\n' ∉ line) ∧
      (∀ t ∈ before ++ [s], ∀ c ∈ t.name.toList, Text.isAlphabetic c) ∧
      ((before ++ [s]).map (·.name)).Nodup ∧
      lineOfSection (fileText notesHeader (before ++ [s])) "Notes" = 6 ∧
      declarationLine notesHeader before = 7 := by
  intro before s
  exact ⟨by decide +kernel, by decide +kernel, letters_of_all (by decide +kernel),
    by decide +kernel, by decide +kernel, by decide +kernel⟩

end Definition

end Docket
