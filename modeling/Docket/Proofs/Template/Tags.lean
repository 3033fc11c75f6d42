import Docket.Proofs.Path.Display
import Docket.Template.Tag

/-!
# What tags mean

`Tag.Spells` lists the spellings of tags: expressions, the openings and closings of blocks, and two
spellings of the turn to a block's second part.  A tag is read exactly if it is spelled so
(`Tag.read_ok_iff`), whatever white space stands around it.

No expression is spelled like another tag, with one exception: `else` would be the path of that
name.  An expression starts with a path, and no path starts with `#` or `/`
(`isPathChar_of_readExpression`).
-/

namespace Docket.Template

/-! ## Spellings -/

/-- `Tag.Spells cs t`: between its braces and white space, a tag that is written `cs` means `t`. -/
inductive Tag.Spells : List Char → Tag → Prop where
  | expression {cs : List Char} {e : Expression} : cs ≠ elseKeyword → readExpression cs = .ok e →
    Spells cs (.expression e)
  | opening {kind : BlockKind} {blank : Char} {argument : List Char} {path : Path} :
    Text.isBlank blank → Path.parse (String.ofList argument) = .ok path →
      Spells ('#' :: (kind.keyword.toList ++ blank :: argument)) (.opening kind path)
  | otherwise : Spells elseKeyword .otherwise
  | otherwiseDirective : Spells ('#' :: elseKeyword) .otherwise
  /-- White space may stand before the keyword. -/
  | closing {kind : BlockKind} {keyword : List Char} : Text.trim keyword = kind.keyword.toList →
    Spells ('/' :: keyword) (.closing kind)

/-! ## Keywords -/

lemma blockOf?_eq_some_iff {keyword : List Char} {kind : BlockKind} :
    blockOf? keyword = some kind ↔ keyword = kind.keyword.toList := by
  have hcond : BlockKind.cond.keyword.toList = ['i', 'f'] := by decide
  have hloop : BlockKind.loop.keyword.toList = ['e', 'a', 'c', 'h'] := by decide
  cases kind <;> grind [blockOf?]

lemma isBlank_of_mem_keyword (kind : BlockKind) :
    ∀ c ∈ kind.keyword.toList, Text.isBlank c = false := by
  have hall : kind.keyword.toList.all fun c => !Text.isBlank c := by cases kind <;> decide
  simpa using hall

/-! ## Directives -/

variable {invalid : Error} {directive : List Char} {t : Tag}

lemma spells_of_readDirective (htrimmed : Text.Trimmed ('#' :: directive))
    (h : readDirective invalid directive = .ok t) : Tag.Spells ('#' :: directive) t := by
  cases hsplit : Text.splitOnce Text.isBlank directive with
  | none =>
      simp only [readDirective, splitDirective, hsplit] at h
      split at h
      · cases h
      · split at h
        · rename_i hkeyword
          obtain rfl : directive = elseKeyword := by simpa using hkeyword
          cases h
          exact .otherwiseDirective
        · cases h
  | some parts =>
      obtain ⟨keyword, argument⟩ := parts
      simp only [readDirective, splitDirective, hsplit] at h
      obtain ⟨blank, rfl, hblank, -⟩ := Text.splitOnce_eq_some_iff.mp hsplit
      split at h
      · rename_i kind hkeyword
        split at h
        · cases h
        · split at h
          · cases h
          · rename_i path hpath
            cases h
            rw [Path.parse_eq_ok_iff, Path.parse?_trim] at hpath
            rw [blockOf?_eq_some_iff.mp hkeyword]
            exact .opening hblank (Path.parse_eq_ok_iff.mpr hpath)
      · -- behind `else` there would be nothing but white space, yet the tag does not end with it
        split at h
        · rename_i hargument
          simp only [Bool.and_eq_true, decide_eq_true_eq, List.isEmpty_iff,
            Text.trim_eq_nil_iff] at hargument
          have hlast : ('#' :: (keyword ++ blank :: argument)).getLast? =
              (blank :: argument).getLast? := by simp [List.getLast?_cons]
          obtain ⟨c, hc⟩ : ∃ c, (blank :: argument).getLast? = some c := by
            simp [List.getLast?_cons]
          have hall : ∀ d ∈ blank :: argument, Text.isBlank d :=
            List.forall_mem_cons.mpr ⟨hblank, hargument.2⟩
          have hcblank := hall c (List.mem_of_getLast? hc)
          have hfinish := htrimmed.finish c (hlast.trans hc)
          simp [hfinish] at hcblank
        · cases h

lemma readDirective_opening {kind : BlockKind} {blank : Char} {argument : List Char} {path : Path}
    (hblank : Text.isBlank blank) (hpath : Path.parse (String.ofList argument) = .ok path) :
    readDirective invalid (kind.keyword.toList ++ blank :: argument) =
      .ok (.opening kind path) := by
  have hsplit : Text.splitOnce Text.isBlank (kind.keyword.toList ++ blank :: argument) = _ :=
    Text.splitOnce_append (isBlank_of_mem_keyword kind) hblank
  have htrim : Path.parse (String.ofList (Text.trim argument)) = .ok path := by
    rwa [Path.parse_eq_ok_iff, Path.parse?_trim, ← Path.parse_eq_ok_iff]
  have hne : Text.trim argument ≠ [] := by
    intro hnil
    rw [hnil, Path.parse_eq_ok_iff, Path.parse?_empty] at htrim
    cases htrim
  have hkeyword : blockOf? kind.keyword.toList = some kind := blockOf?_eq_some_iff.mpr rfl
  simp [readDirective, splitDirective, hsplit, hkeyword, hne, htrim]

/-! ## Expressions -/

/-- An expression starts with a path. -/
lemma isPathChar_of_readExpression {c : Char} {cs : List Char} {e : Expression}
    (hc : Text.isBlank c = false) (h : readExpression (c :: cs) = .ok e) : Path.isPathChar c := by
  obtain ⟨path, rest, hsplit, hpath⟩ : ∃ path rest,
      splitOutsideQuotes '|' (c :: cs) = path :: rest ∧ (path = [] ∨ ∃ tail, path = c :: tail) := by
    rw [splitOutsideQuotes, splitFrom]
    split
    · exact ⟨_, _, rfl, .inl rfl⟩
    · split
      · exact ⟨_, _, rfl, .inr ⟨_, rfl⟩⟩
      · exact ⟨_, _, rfl, .inr ⟨_, rfl⟩⟩
  simp only [readExpression, hsplit] at h
  split at h
  · cases h
  · rename_i p hp
    rw [Path.parse_eq_ok_iff] at hp
    rcases hpath with rfl | ⟨tail, rfl⟩
    · rw [Path.parse?_empty] at hp
      cases hp
    · exact Path.isPathChar_of_parse? hc hp

lemma readExpression_nil (e : Expression) : readExpression [] ≠ .ok e := by
  have hempty : Path.parse (String.ofList []) = .error (.invalidExpression "") := by decide +kernel
  simp [readExpression, splitOutsideQuotes, splitFrom, hempty]

/-! ## Tags -/

lemma Tag.read_of_expression {inner : List Char} {e : Expression}
    (hword : Text.trim inner ≠ elseKeyword) (h : readExpression (Text.trim inner) = .ok e) :
    Tag.read inner = .ok (.expression e) := by
  unfold Tag.read
  split
  · rename_i hnil
    rw [hnil] at h
    exact absurd h (readExpression_nil e)
  · rename_i directive hdirective
    rw [hdirective] at h
    exact absurd (isPathChar_of_readExpression (by decide) h) (by decide +kernel)
  · rename_i keyword hkeyword
    rw [hkeyword] at h
    exact absurd (isPathChar_of_readExpression (by decide) h) (by decide +kernel)
  · rw [if_neg hword, h]

/-- **A tag is read exactly if it is spelled**, white space around it aside. -/
lemma Tag.read_ok_iff {inner : List Char} :
    Tag.read inner = .ok t ↔ Tag.Spells (Text.trim inner) t := by
  constructor
  · intro h
    unfold Tag.read at h
    split at h
    · cases h
    · rename_i directive hdirective
      rw [hdirective]
      exact spells_of_readDirective (hdirective ▸ Text.trimmed_trim inner) h
    · rename_i keyword hkeyword
      rw [hkeyword]
      split at h
      · rename_i kind hkind
        cases h
        exact .closing (blockOf?_eq_some_iff.mp hkind)
      · cases h
    · split at h
      · rename_i hword
        cases h
        rw [hword]
        exact .otherwise
      · split at h
        · cases h
        · rename_i hword _ e he
          cases h
          exact .expression hword he
  · intro h
    generalize hcs : Text.trim inner = cs at h
    cases h with
    | expression hword he => exact Tag.read_of_expression (hcs ▸ hword) (hcs ▸ he)
    | opening hblank hpath =>
        simp only [Tag.read, hcs]
        exact readDirective_opening hblank hpath
    | otherwise => simp only [Tag.read, hcs]; rfl
    | otherwiseDirective => simp only [Tag.read, hcs]; rfl
    | closing hkeyword => simp [Tag.read, hcs, blockOf?_eq_some_iff.mpr hkeyword]

end Docket.Template
