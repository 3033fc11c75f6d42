import Docket.Path.Basic
import Docket.Proofs.Number.Numeral
import Docket.Proofs.Text.Trimming
import Mathlib.Data.List.Forall2

/-!
# Reading a path as it is written

Reading gives only paths of a certain form (`Path.WellFormed`): names are made of characters of
names and are not positions, positions fit into 64 bits, and only paths from the root or from a loop
element have steps.  A path of this form is read back from the way messages show it
(`parse?_display`), unless it starts at the root with a position.

The way there follows the writing.  Cut at its points, a run of steps falls into parts
(`splitAll_steps`), each a name or nothing with positions behind it, and reading the parts gives
the steps back (`steps?_parts`).

What a path is written with are the characters of paths (`isPathChar_of_mem_display`).  White space
and the marks of tags are not among them, and nothing that starts with another character is read as
a path (`isPathChar_of_parse?`); so a path can be told from what stands around it.
-/

namespace Docket

open Numeral

namespace Path

/-! ## Characters of names and of paths -/

/-- The marks between the steps of a path. -/
def stepMarks : List Char := ['.', '[', ']', '@']

/-- The marks around a path. -/
def outerMarks : List Char := ['#', '/', '|', '(', ')', ',', '"', '\'', '\x7b', '\x7d']

/-- Characters of a path: those of names, and the marks between the steps. -/
def isPathChar (c : Char) : Bool := isNameChar c || c ∈ stepMarks

lemma isNameChar_of_mem_stepMarks : ∀ c ∈ stepMarks, isNameChar c = false := by
  have hall : stepMarks.all fun c => !isNameChar c := by decide +kernel
  simpa using hall

lemma isPathChar_of_mem_outerMarks : ∀ c ∈ outerMarks, isPathChar c = false := by
  have hall : outerMarks.all fun c => !isPathChar c := by decide +kernel
  simpa using hall

lemma isNameChar_of_isDigit {c : Char} (h : isDigit c) : isNameChar c := by
  have hspan : ∀ n ∈ List.range' 48 10, Text.inSpans Text.Table.numeric n := by decide +kernel
  have hnumeric : Text.isNumeric c := by
    simp only [isDigit, Bool.and_eq_true, decide_eq_true_eq, Char.le_def] at h
    refine hspan c.toNat (List.mem_range'_1.mpr ⟨h.1, ?_⟩)
    exact Nat.lt_succ_of_le h.2
  simp [isNameChar, Text.isAlphanumeric, hnumeric]

/-- White space is neither part of a name nor of a path. -/
lemma isPathChar_of_isBlank {c : Char} (h : Text.isBlank c) : isPathChar c = false := by
  have hblanks : ∀ n ∈ List.range' 9 5 ++ List.range' 8192 11 ++
      [32, 133, 160, 5760, 8232, 8233, 8239, 8287, 12288], isPathChar (Char.ofNat n) = false := by
    decide +kernel
  rw [← Char.ofNat_toNat c]
  apply hblanks
  simp only [Text.isBlank, Text.inSpans] at h
  simp only [List.mem_append, List.mem_range'_1, List.mem_cons, List.not_mem_nil]
  grind

end Path

/-! ## What reading gives -/

/-- A name that reading takes for a name, or a position that it can hold. -/
def Segment.WellFormed : Segment → Prop
  | .key name => (∀ c ∈ name.toList, Path.isNameChar c) ∧ ∃ c ∈ name.toList, isDigit c = false
  | .index position => position < unsignedBound

namespace Path

/-- A path that reading may give. -/
structure WellFormed (p : Path) : Prop where
  steps : ∀ s ∈ p.segments, s.WellFormed
  lead : match p.scope with
    | .root => p.segments ≠ [] ∧ p.segments.head? ≠ some (.key "this")
    | .this => True
    | _ => p.segments = []

lemma nameStep?_wellFormed {name : List Char} {s : Segment} (h : nameStep? name = some s) :
    s.WellFormed := by
  unfold nameStep? at h
  split at h
  · cases h
  · split at h
    · obtain ⟨n, hn, rfl⟩ := Option.map_eq_some_iff.mp h
      exact unsigned?_lt hn
    · split at h
      · rename_i hdigits hname
        cases h
        simp only [List.all_eq_true] at hname hdigits
        simp only [Segment.WellFormed, String.toList_ofList]
        exact ⟨hname, by simpa using hdigits⟩
      · cases h

lemma position?_wellFormed {piece : List Char} {s : Segment} (h : position? piece = some s) :
    s.WellFormed := by
  unfold position? at h
  split at h
  · obtain ⟨n, hn, rfl⟩ := Option.map_eq_some_iff.mp h
    exact unsigned?_lt hn
  · cases h

lemma mapM_position?_iff {pieces : List (List Char)} {steps : List Segment} :
    pieces.mapM position? = some steps ↔
      List.Forall₂ (fun piece s => position? piece = some s) pieces steps := by
  induction pieces generalizing steps with
  | nil => simp [List.forall₂_nil_left_iff, eq_comm]
  | cons piece pieces ih =>
      simp only [List.mapM_cons, Option.bind_eq_bind, Option.bind_eq_some_iff, ih, Option.pure_def,
        Option.some.injEq, List.forall₂_cons_left_iff]
      grind

lemma wellFormed_of_positions {pieces : List (List Char)} {steps : List Segment}
    (h : List.Forall₂ (fun piece s => position? piece = some s) pieces steps) :
    ∀ s ∈ steps, s.WellFormed := by
  induction h with
  | nil => simp
  | cons hs _ ih => exact List.forall_mem_cons.mpr ⟨position?_wellFormed hs, ih⟩

lemma positions?_wellFormed {run : List Char} {steps : List Segment}
    (h : positions? run = some steps) : ∀ s ∈ steps, s.WellFormed := by
  unfold positions? at h
  split at h
  · cases h
    simp
  · split at h
    · exact wellFormed_of_positions (mapM_position?_iff.mp h)
    · cases h

lemma partSteps?_wellFormed {isFirst : Bool} {part : List Char} {steps : List Segment}
    (h : partSteps? isFirst part = some steps) :
    (∀ s ∈ steps, s.WellFormed) ∧ (isFirst → steps ≠ []) := by
  unfold partSteps? at h
  simp only at h
  split at h
  · split at h
    · cases h
    · rename_i hfirst
      refine ⟨positions?_wellFormed h, fun hisFirst => ?_⟩
      simp [hisFirst] at hfirst
  · obtain ⟨step, hstep, hrest⟩ := Option.bind_eq_some_iff.mp h
    obtain ⟨positions, hpositions, rfl⟩ := Option.map_eq_some_iff.mp hrest
    refine ⟨?_, fun _ => List.cons_ne_nil _ _⟩
    exact List.forall_mem_cons.mpr ⟨nameStep?_wellFormed hstep, positions?_wellFormed hpositions⟩

lemma steps?_wellFormed {isFirst : Bool} {parts : List (List Char)} {steps : List Segment}
    (h : steps? isFirst parts = some steps) :
    (∀ s ∈ steps, s.WellFormed) ∧ (isFirst → parts ≠ [] → steps ≠ []) := by
  induction parts generalizing isFirst steps with
  | nil => cases h; simp
  | cons part rest ih =>
      obtain ⟨front, hfront, hrest⟩ := Option.bind_eq_some_iff.mp h
      obtain ⟨back, hback, rfl⟩ := Option.map_eq_some_iff.mp hrest
      obtain ⟨hfrontWell, hne⟩ := partSteps?_wellFormed hfront
      refine ⟨fun s hs => ?_, fun hisFirst _ => by simp [hne hisFirst]⟩
      rcases List.mem_append.mp hs with hs | hs
      · exact hfrontWell s hs
      · exact (ih hback).1 s hs

/-- The steps of a path and its scope: a leading name `this` is the scope. -/
def ofSteps (steps : List Segment) : Path :=
  match steps with
  | .key name :: rest => if name = "this" then ⟨.this, rest⟩ else ⟨.root, steps⟩
  | _ => ⟨.root, steps⟩

lemma ofSteps_wellFormed {steps : List Segment} (h : ∀ s ∈ steps, s.WellFormed) (hne : steps ≠ []) :
    (ofSteps steps).WellFormed := by
  match steps with
  | [] => exact absurd rfl hne
  | .index position :: rest => exact ⟨h, by simp [ofSteps]⟩
  | .key name :: rest =>
      by_cases hthis : name = "this"
      · simp only [ofSteps, hthis, if_true]
        exact ⟨(List.forall_mem_cons.mp h).2, trivial⟩
      · simp only [ofSteps, hthis, if_false]
        exact ⟨h, by simp [hthis]⟩

/-- Only paths that start with `@` have no steps to read. -/
lemma ofChars?_of_head {cs : List Char} (h : cs.head? ≠ some '@') :
    ofChars? cs = (steps? true (Text.splitAll (· == '.') cs)).map ofSteps := by
  unfold ofChars?
  have hword : ∀ word : List Char, word.head? = some '@' → cs ≠ word := by
    rintro word hword rfl
    exact h hword
  rw [if_neg (hword _ rfl), if_neg (hword _ rfl), if_neg (hword _ rfl)]
  rfl

/-- **Reading gives well-formed paths.** -/
theorem parse?_wellFormed {raw : String} {p : Path} (h : parse? raw = some p) : p.WellFormed := by
  have hofChars : ofChars? (Text.trim raw.toList) = some p := h
  unfold ofChars? at hofChars
  split at hofChars
  · cases hofChars
    exact ⟨by simp, rfl⟩
  · split at hofChars
    · cases hofChars
      exact ⟨by simp, rfl⟩
    · split at hofChars
      · cases hofChars
        exact ⟨by simp, rfl⟩
      · obtain ⟨steps, hsteps, rfl⟩ := Option.map_eq_some_iff.mp hofChars
        obtain ⟨hwell, hne⟩ := steps?_wellFormed hsteps
        exact ofSteps_wellFormed hwell (hne rfl Text.splitAll_ne_nil)

/-! ## Parts of a written path -/

variable {isFirst : Bool} {name : String} {positions : List Nat}

lemma nameStep?_of_wellFormed (h : (Segment.key name).WellFormed) :
    nameStep? name.toList = some (.key name) := by
  obtain ⟨hname, c, hc, hdigit⟩ := h
  have hne : name.toList ≠ [] := List.ne_nil_of_mem hc
  have hposition : ¬ name.toList.all isDigit := by
    simp only [List.all_eq_true, not_forall]
    exact ⟨c, hc, by simp [hdigit]⟩
  have hall : name.toList.all isNameChar := List.all_eq_true.mpr hname
  simp [nameStep?, hne, hposition, hall]

lemma splitAll_bracketed (positions : List Nat) :
    Text.splitAll (· == ']') (positions.flatMap bracketed) =
      positions.map (fun n => '[' :: digitsOf n) ++ [[]] := by
  induction positions with
  | nil => rfl
  | cons n positions ih =>
      have hfree : ∀ c ∈ '[' :: digitsOf n, (c == ']') = false := by
        refine List.forall_mem_cons.mpr ⟨by decide, fun c hc => beq_eq_false_iff_ne.mpr ?_⟩
        rintro rfl
        exact absurd (isDigit_of_mem_digitsOf hc) (by decide)
      have hsplit : Text.splitAll (· == ']')
          (('[' :: digitsOf n) ++ ']' :: positions.flatMap bracketed) = _ :=
        Text.splitAll_append_cons hfree (beq_self_eq_true ']')
      rw [List.flatMap_cons, bracketed, ← List.cons_append, List.append_assoc,
        List.singleton_append, hsplit, ih]
      rfl

lemma positions?_bracketed (h : ∀ n ∈ positions, n < unsignedBound) :
    positions? (positions.flatMap bracketed) = some (positions.map .index) := by
  cases positions with
  | nil => rfl
  | cons n rest =>
      have hread : List.Forall₂ (fun piece s => position? piece = some s)
          ((n :: rest).map fun n => '[' :: digitsOf n) ((n :: rest).map .index) := by
        rw [List.forall₂_map_left_iff, List.forall₂_map_right_iff, List.forall₂_same]
        intro m hm
        simp [position?, unsigned?_digitsOf (h m hm)]
      unfold positions?
      rw [if_neg (by simp [bracketed]), splitAll_bracketed]
      simp only [List.reverse_append, List.reverse_singleton, List.singleton_append,
        List.reverse_reverse]
      exact mapM_position?_iff.mpr hread

lemma takeWhile_bracketed (positions : List Nat) :
    (positions.flatMap bracketed).takeWhile (· ≠ '[') = [] := by
  cases positions <;> simp [bracketed]

lemma dropWhile_bracketed (positions : List Nat) :
    (positions.flatMap bracketed).dropWhile (· ≠ '[') = positions.flatMap bracketed := by
  cases positions <;> simp [bracketed]

/-- A name with positions behind it is read as the steps it was written from. -/
lemma partSteps?_key (hname : (Segment.key name).WellFormed)
    (h : ∀ n ∈ positions, n < unsignedBound) :
    partSteps? isFirst (name.toList ++ positions.flatMap bracketed) =
      some (.key name :: positions.map .index) := by
  have hbracket : ∀ c ∈ name.toList, decide (c ≠ '[') = true := by
    intro c hc
    refine decide_eq_true fun heq => ?_
    have hmark := isNameChar_of_mem_stepMarks c (heq ▸ by decide)
    simp [hname.1 c hc] at hmark
  have hne : name.toList ≠ [] := List.ne_nil_of_mem hname.2.choose_spec.1
  unfold partSteps?
  rw [List.takeWhile_append_of_pos hbracket, List.dropWhile_append_of_pos hbracket,
    takeWhile_bracketed, dropWhile_bracketed, List.append_nil]
  simp [hne, nameStep?_of_wellFormed hname, positions?_bracketed h]

/-- Behind another part, positions may stand alone. -/
lemma partSteps?_positions (h : ∀ n ∈ positions, n < unsignedBound) (hne : positions ≠ []) :
    partSteps? false (positions.flatMap bracketed) = some (positions.map .index) := by
  have hrun : positions.flatMap bracketed ≠ [] := by
    obtain ⟨n, rest, rfl⟩ := List.exists_cons_of_ne_nil hne
    simp [bracketed]
  unfold partSteps?
  rw [takeWhile_bracketed, dropWhile_bracketed]
  simp [hrun, positions?_bracketed h]

/-! ## Reading what is written -/

/-- The parts between points of a piece and the steps written behind it. -/
def parts (piece : List Char) : List Segment → List (List Char)
  | [] => [piece]
  | .index position :: rest => parts (piece ++ bracketed position) rest
  | .key name :: rest => piece :: parts name.toList rest

/-- A text without points. -/
def PointFree (piece : List Char) : Prop := ∀ c ∈ piece, (c == '.') = false

lemma pointFree_key (h : (Segment.key name).WellFormed) : PointFree name.toList := by
  intro c hc
  refine beq_eq_false_iff_ne.mpr fun heq => ?_
  have hmark := isNameChar_of_mem_stepMarks c (heq ▸ by decide)
  simp [h.1 c hc] at hmark

lemma pointFree_bracketed (position : Nat) : PointFree (bracketed position) := by
  intro c hc
  simp only [bracketed, List.mem_cons, List.mem_append, List.not_mem_nil, or_false] at hc
  rcases hc with rfl | hc | rfl
  · decide
  · refine beq_eq_false_iff_ne.mpr ?_
    rintro rfl
    exact absurd (isDigit_of_mem_digitsOf hc) (by decide)
  · decide

lemma PointFree.append {a b : List Char} (ha : PointFree a) (hb : PointFree b) :
    PointFree (a ++ b) := fun c hc => (List.mem_append.mp hc).elim (ha c) (hb c)

/-- Cut at its points, a run of steps falls into its parts. -/
lemma splitAll_steps {piece : List Char} {steps : List Segment} (hpiece : PointFree piece)
    (h : ∀ s ∈ steps, s.WellFormed) :
    Text.splitAll (· == '.') (piece ++ steps.flatMap stepChars) = parts piece steps := by
  induction steps generalizing piece with
  | nil =>
      rw [List.flatMap_nil, List.append_nil]
      exact Text.splitAll_of_forall hpiece
  | cons s steps ih =>
      obtain ⟨hs, hsteps⟩ := List.forall_mem_cons.mp h
      cases s with
      | key name =>
          rw [List.flatMap_cons, stepChars, List.cons_append,
            Text.splitAll_append_cons hpiece (beq_self_eq_true '.'), parts,
            ih (pointFree_key hs) hsteps]
      | index position =>
          rw [List.flatMap_cons, stepChars, ← List.append_assoc, parts,
            ih (hpiece.append (pointFree_bracketed position)) hsteps]

/-- Reading the parts of a run of steps gives its steps, if the piece that it is written behind is
read as `front` whatever positions follow. -/
lemma steps?_parts {piece : List Char} {front steps : List Segment}
    (hpiece : ∀ positions : List Nat, (∀ n ∈ positions, n < unsignedBound) →
      partSteps? isFirst (piece ++ positions.flatMap bracketed) =
        some (front ++ positions.map .index))
    (h : ∀ s ∈ steps, s.WellFormed) :
    steps? isFirst (parts piece steps) = some (front ++ steps) := by
  induction steps generalizing isFirst piece front with
  | nil =>
      have hread := hpiece [] (by simp)
      simp only [List.flatMap_nil, List.append_nil, List.map_nil] at hread
      simp [parts, steps?, hread]
  | cons s steps ih =>
      obtain ⟨hs, hsteps⟩ := List.forall_mem_cons.mp h
      cases s with
      | key name =>
          have hread := hpiece [] (by simp)
          simp only [List.flatMap_nil, List.append_nil, List.map_nil] at hread
          have hrest : steps? false (parts name.toList steps) = some ([.key name] ++ steps) :=
            ih (fun positions hpositions => partSteps?_key hs hpositions) hsteps
          simp [parts, steps?, hread, hrest]
      | index position =>
          have hfront : front ++ .index position :: steps =
              (front ++ [.index position]) ++ steps := by simp
          rw [parts, hfront]
          refine ih (fun positions hpositions => ?_) hsteps
          have hread := hpiece (position :: positions)
            (List.forall_mem_cons.mpr ⟨hs, hpositions⟩)
          simpa [List.append_assoc] using hread

/-- A name with steps behind it is read as it was written. -/
lemma steps?_key {steps : List Segment} (hname : (Segment.key name).WellFormed)
    (h : ∀ s ∈ steps, s.WellFormed) :
    steps? isFirst (parts name.toList steps) = some ([.key name] ++ steps) :=
  steps?_parts (fun _ hpositions => partSteps?_key hname hpositions) h

lemma head?_name (hname : (Segment.key name).WellFormed) (cs : List Char) :
    (name.toList ++ cs).head? ≠ some '@' := by
  obtain ⟨c, rest, heq⟩ := List.exists_cons_of_ne_nil (List.ne_nil_of_mem hname.2.choose_spec.1)
  rw [heq]
  rintro ⟨⟩
  have hat : isNameChar '@' := hname.1 '@' (heq ▸ List.mem_cons_self)
  exact absurd hat (by simp [isNameChar_of_mem_stepMarks '@' (by decide)])

lemma ofChars?_key {steps : List Segment} (hname : (Segment.key name).WellFormed)
    (h : ∀ s ∈ steps, s.WellFormed) :
    ofChars? (name.toList ++ steps.flatMap stepChars) = some (ofSteps (.key name :: steps)) := by
  rw [ofChars?_of_head (head?_name hname _), splitAll_steps (pointFree_key hname) h,
    steps?_key hname h]
  rfl

lemma wellFormed_this : (Segment.key "this").WellFormed := by
  have hall : "this".toList.all isNameChar := by decide +kernel
  exact ⟨List.all_eq_true.mp hall, 't', by decide, by decide⟩

/-- Behind `this`, a point may come before a position. -/
lemma ofChars?_this_index {position : Nat} {steps : List Segment}
    (hposition : position < unsignedBound) (h : ∀ s ∈ steps, s.WellFormed) :
    ofChars? ("this".toList ++ '.' :: (bracketed position ++ steps.flatMap stepChars)) =
      some ⟨.this, .index position :: steps⟩ := by
  have hthis : partSteps? true ("this".toList ++ ([] : List Nat).flatMap bracketed) = _ :=
    partSteps?_key wellFormed_this (by simp)
  rw [List.flatMap_nil, List.append_nil] at hthis
  have hrest : steps? false (parts (bracketed position) steps) =
      some ([.index position] ++ steps) := by
    refine steps?_parts (fun positions hpositions => ?_) h
    have hread : partSteps? false ((position :: positions).flatMap bracketed) = _ :=
      partSteps?_positions (List.forall_mem_cons.mpr ⟨hposition, hpositions⟩)
        (List.cons_ne_nil _ _)
    simpa using hread
  rw [ofChars?_of_head (head?_name wellFormed_this _),
    Text.splitAll_append_cons (pointFree_key wellFormed_this) (beq_self_eq_true '.'),
    splitAll_steps (pointFree_bracketed position) h, steps?, hthis, hrest]
  rfl

lemma isPathChar_of_mem_key (hname : (Segment.key name).WellFormed) :
    ∀ c ∈ name.toList, isPathChar c := fun c hc => by simp [isPathChar, hname.1 c hc]

lemma isPathChar_of_mem_step {s : Segment} (hs : s.WellFormed) :
    ∀ c ∈ stepChars s, isPathChar c := by
  cases s with
  | key name => exact List.forall_mem_cons.mpr ⟨by decide +kernel, isPathChar_of_mem_key hs⟩
  | index position =>
      refine List.forall_mem_cons.mpr ⟨by decide +kernel, fun c hc => ?_⟩
      rcases List.mem_append.mp hc with hc | hc
      · simp [isPathChar, isNameChar_of_isDigit (isDigit_of_mem_digitsOf hc)]
      · obtain rfl := List.mem_singleton.mp hc
        decide +kernel

lemma isPathChar_of_mem_canonical {steps : List Segment} (h : ∀ s ∈ steps, s.WellFormed) :
    ∀ c ∈ canonicalChars steps, isPathChar c := by
  have hsteps {steps : List Segment} (h : ∀ s ∈ steps, s.WellFormed) :
      ∀ c ∈ steps.flatMap stepChars, isPathChar c := by
    intro c hc
    obtain ⟨s, hs, hc⟩ := List.mem_flatMap.mp hc
    exact isPathChar_of_mem_step (h s hs) c hc
  intro c hc
  rcases steps with _ | ⟨name | position, rest⟩
  · simp [canonicalChars] at hc
  · obtain ⟨hkey, hrest⟩ := List.forall_mem_cons.mp h
    exact (List.mem_append.mp hc).elim (isPathChar_of_mem_key hkey c) (hsteps hrest c)
  · exact hsteps h c hc

/-- The characters of a path that is read back. -/
lemma isPathChar_of_mem_display {p : Path} (h : p.WellFormed) :
    ∀ c ∈ p.display.toList, isPathChar c := by
  have hall : ["this", "this.", "@index", "@first", "@last"].all
      fun word => word.toList.all isPathChar := by decide +kernel
  have hwords (word : String) (hword : word ∈ ["this", "this.", "@index", "@first", "@last"]) :
      ∀ c ∈ word.toList, isPathChar c := List.all_eq_true.mp (List.all_eq_true.mp hall word hword)
  have hcanonical := isPathChar_of_mem_canonical h.steps
  obtain ⟨scope, segments⟩ := p
  intro c hc
  cases scope with
  | root => exact hcanonical c (by simpa [display, canonical] using hc)
  | this =>
      simp only [display] at hc
      split at hc
      · exact hwords "this" (by simp) c hc
      · rw [String.toList_append, List.mem_append] at hc
        refine hc.elim (hwords "this." (by simp) c) fun hc => hcanonical c ?_
        simpa [canonical] using hc
  | index => exact hwords "@index" (by simp) c hc
  | first => exact hwords "@first" (by simp) c hc
  | last => exact hwords "@last" (by simp) c hc

/-- A path is displayed without white space. -/
lemma trim_display {p : Path} (h : p.WellFormed) :
    Text.trim p.display.toList = p.display.toList := by
  refine Text.trim_of_trimmed (Text.trimmed_of_forall fun c hc => ?_)
  by_contra hblank
  have hmark := isPathChar_of_isBlank (Bool.eq_true_of_not_eq_false hblank)
  simp [isPathChar_of_mem_display h c hc] at hmark

/-- **A path that may be read is read back from its display**, unless it starts at the root with a
position. -/
theorem parse?_display {p : Path} (h : p.WellFormed)
    (hindex : p.scope = .root → ∀ position, p.segments.head? ≠ some (.index position)) :
    parse? p.display = some p := by
  rw [parse?, trim_display h]
  obtain ⟨hsteps, hlead⟩ := h
  obtain ⟨scope, segments⟩ := p
  cases scope with
  | root =>
      obtain ⟨hne, hthis⟩ := hlead
      rcases segments with _ | ⟨name | position, rest⟩
      · exact absurd rfl hne
      · have hname : name ≠ "this" := by simpa using hthis
        obtain ⟨hkey, hrest⟩ := List.forall_mem_cons.mp hsteps
        have hread := ofChars?_key hkey hrest
        simpa [display, canonical, canonicalChars, ofSteps, hname] using hread
      · exact absurd rfl (hindex rfl position)
  | this =>
      rcases segments with _ | ⟨name | position, rest⟩
      · have hread := ofChars?_key wellFormed_this hsteps
        simpa [display, ofSteps] using hread
      · have hread := ofChars?_key wellFormed_this hsteps
        simpa [display, canonical, canonicalChars, stepChars, ofSteps] using hread
      · obtain ⟨hposition, hrest⟩ := List.forall_mem_cons.mp hsteps
        have hread := ofChars?_this_index hposition hrest
        simpa [display, canonical, canonicalChars, stepChars] using hread
  | index =>
      have hnil : segments = [] := hlead
      simp [display, ofChars?, hnil]
  | first =>
      have hnil : segments = [] := hlead
      simp [display, ofChars?, hnil]
  | last =>
      have hnil : segments = [] := hlead
      simp [display, ofChars?, hnil]

/-- No path starts with a bracket: its first part lacks its name. -/
lemma ofChars?_bracket (cs : List Char) : ofChars? ('[' :: cs) = none := by
  obtain ⟨part, rest, hparts⟩ : ∃ part rest,
      Text.splitAll (· == '.') ('[' :: cs) = ('[' :: part) :: rest :=
    Text.splitAll_cons_of_neg (by decide) cs
  have hpart : partSteps? true ('[' :: part) = none := rfl
  rw [ofChars?_of_head (by simp), hparts, steps?, hpart]
  rfl

/-! ## What a path starts with -/

lemma isNameChar_of_nameStep? {name : List Char} {s : Segment} (h : nameStep? name = some s) :
    ∀ c ∈ name, isNameChar c := by
  unfold nameStep? at h
  split at h
  · cases h
  · split at h
    · rename_i hdigits
      exact fun c hc => isNameChar_of_isDigit (List.all_eq_true.mp hdigits c hc)
    · split at h
      · rename_i hname
        exact List.all_eq_true.mp hname
      · cases h

/-- A text that starts with a foreign character is no path. -/
lemma isPathChar_of_ofChars? {c : Char} {cs : List Char} {p : Path}
    (h : ofChars? (c :: cs) = some p) : isPathChar c := by
  by_contra hc
  have hpoint : (c == '.') = false := by grind [isPathChar, stepMarks]
  have hbracket : c ≠ '[' := by grind [isPathChar, stepMarks]
  have hat : (c :: cs).head? ≠ some '@' := by grind [isPathChar, stepMarks]
  rw [ofChars?_of_head hat] at h
  obtain ⟨steps, hsteps, -⟩ := Option.map_eq_some_iff.mp h
  obtain ⟨part, rest, hparts⟩ : ∃ part rest,
      Text.splitAll (· == '.') (c :: cs) = (c :: part) :: rest :=
    Text.splitAll_cons_of_neg (p := (· == '.')) hpoint cs
  rw [hparts] at hsteps
  obtain ⟨front, hfront, -⟩ := Option.bind_eq_some_iff.mp hsteps
  have hname : (c :: part).takeWhile (· ≠ '[') = c :: part.takeWhile (· ≠ '[') :=
    List.takeWhile_cons_of_pos (decide_eq_true hbracket)
  rw [partSteps?, hname, if_neg (by simp)] at hfront
  obtain ⟨step, hstep, -⟩ := Option.bind_eq_some_iff.mp hfront
  have hlead := isNameChar_of_nameStep? hstep c List.mem_cons_self
  exact hc (by simp [isPathChar, hlead])

/-! ## The white space around a path -/

lemma parse_eq_ok_iff {raw : String} {p : Path} : parse raw = .ok p ↔ parse? raw = some p := by
  unfold parse
  split <;> simp [*]

lemma parse?_trim (cs : List Char) :
    parse? (String.ofList (Text.trim cs)) = parse? (String.ofList cs) := by
  simp [parse?]

@[simp] lemma parse?_empty : parse? (String.ofList []) = none := by decide +kernel

/-- A path starts with a character of paths, white space before it aside. -/
lemma isPathChar_of_parse? {c : Char} {cs : List Char} {p : Path} (hc : Text.isBlank c = false)
    (h : parse? (String.ofList (c :: cs)) = some p) : isPathChar c := by
  obtain ⟨rest, htrim⟩ := Text.trim_cons hc
  rw [parse?, String.toList_ofList, htrim] at h
  exact isPathChar_of_ofChars? h

/-! ## Paths that can be written -/

/-- A path that comes from reading and does not start at the root with a position. -/
structure Printable (p : Path) : Prop where
  parsed : ∃ raw, parse raw = .ok p
  lead : p.scope = .root → ∀ position, p.segments.head? ≠ some (.index position)

lemma Printable.wellFormed {p : Path} (h : p.Printable) : p.WellFormed := by
  obtain ⟨raw, hraw⟩ := h.parsed
  exact parse?_wellFormed (parse_eq_ok_iff.mp hraw)

lemma Printable.parse?_display {p : Path} (h : p.Printable) : parse? p.display = some p :=
  Path.parse?_display h.wellFormed h.lead

end Path

end Docket
