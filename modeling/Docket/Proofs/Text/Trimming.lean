import Docket.Text.Lines
import Mathlib.Data.List.DropRight

/-!
# Trimming and splitting

`trim` leaves a text that neither starts nor ends with white space (`trimmed_trim`), and leaves such
a text as it is (`trim_of_trimmed`).  `dropStart?` takes away a start (`dropStart?_eq_some_iff`).
`splitOnce` cuts at the first character of a class and nowhere else (`splitOnce_eq_some_iff`),
`splitAll` at all of them (`splitAll_append_cons`).
-/

namespace Docket.Text

/-! ## Trimming -/

/-- A text that neither starts nor ends with white space. -/
structure Trimmed (cs : List Char) : Prop where
  start : ∀ c ∈ cs.head?, isBlank c = false
  finish : ∀ c ∈ cs.getLast?, isBlank c = false

variable {cs : List Char}

lemma trimEnd_eq_rdropWhile (cs : List Char) : trimEnd cs = cs.rdropWhile isBlank := rfl

lemma trimEnd_eq_self_iff : trimEnd cs = cs ↔ ∀ c ∈ cs.getLast?, isBlank c = false := by
  rw [trimEnd_eq_rdropWhile, List.rdropWhile_eq_self_iff]
  cases cs using List.reverseRecOn <;> simp

lemma trimStart_eq_self_iff : trimStart cs = cs ↔ ∀ c ∈ cs.head?, isBlank c = false := by
  rw [trimStart, List.dropWhile_eq_self_iff]
  cases cs <;> simp

lemma trim_of_trimmed (h : Trimmed cs) : trim cs = cs := by
  rw [trim, trimStart_eq_self_iff.mpr h.start, trimEnd_eq_self_iff.mpr h.finish]

/-- What is left at the end was there before blanks were dropped behind it. -/
lemma trim_isPrefix (cs : List Char) : trim cs <+: trimStart cs := List.rdropWhile_prefix isBlank _

lemma trimmed_trim (cs : List Char) : Trimmed (trim cs) where
  start c hc := by
    have hhead : c ∈ (trimStart cs).head? := by
      obtain ⟨rest, hrest⟩ := trim_isPrefix cs
      rw [← hrest, List.head?_append, Option.mem_def.mp hc]
      rfl
    have hidempotent : trimStart (trimStart cs) = trimStart cs := List.dropWhile_idempotent _ cs
    exact trimStart_eq_self_iff.mp hidempotent c hhead
  finish := trimEnd_eq_self_iff.mp (List.rdropWhile_idempotent isBlank _)

@[simp] lemma trim_trim (cs : List Char) : trim (trim cs) = trim cs :=
  trim_of_trimmed (trimmed_trim cs)

@[simp] lemma trim_nil : trim [] = [] := rfl

/-- A text without white space is trimmed. -/
lemma trimmed_of_forall (h : ∀ c ∈ cs, isBlank c = false) : Trimmed cs where
  start c hc := h c (List.mem_of_mem_head? hc)
  finish c hc := h c (List.mem_of_mem_getLast? hc)

lemma trimmed_of_all (h : cs.all fun c => !isBlank c) : Trimmed cs :=
  trimmed_of_forall (by simpa using h)

/-- Only white space is trimmed away altogether. -/
lemma trim_eq_nil_iff : trim cs = [] ↔ ∀ c ∈ cs, isBlank c := by
  rw [trim, trimEnd_eq_rdropWhile, List.rdropWhile_eq_nil_iff]
  refine ⟨fun h => List.dropWhile_eq_nil_iff.mp ?_, fun h c hc => h c ?_⟩
  · by_contra hne
    have hblank : isBlank ((cs.dropWhile isBlank).head hne) := h _ (List.head_mem hne)
    simp [List.head_dropWhile_not] at hblank
  · exact (List.dropWhile_suffix isBlank).subset hc

/-- What is trimmed away stands around what is left. -/
lemma exists_trim (cs : List Char) :
    ∃ before after, cs = before ++ trim cs ++ after ∧ (∀ c ∈ before, isBlank c) ∧
      ∀ c ∈ after, isBlank c := by
  refine ⟨cs.takeWhile isBlank, (trimStart cs).rtakeWhile isBlank, ?_,
    fun c => List.mem_takeWhile_imp, fun c => List.mem_rtakeWhile_imp⟩
  have hend : trim cs ++ (trimStart cs).rtakeWhile isBlank = trimStart cs :=
    List.rdropWhile_append_rtakeWhile
  rw [List.append_assoc, hend, trimStart, List.takeWhile_append_dropWhile]

/-- A text that starts with no white space keeps its first character. -/
lemma trim_cons {c : Char} (hc : isBlank c = false) : ∃ rest, trim (c :: cs) = c :: rest := by
  have hstart : trimStart (c :: cs) = c :: cs := by simp [trimStart, hc]
  have hne : trim (c :: cs) ≠ [] := fun h => by
    simpa [hc] using trim_eq_nil_iff.mp h c List.mem_cons_self
  obtain ⟨d, rest, heq⟩ := List.exists_cons_of_ne_nil hne
  have hprefix := trim_isPrefix (c :: cs)
  rw [heq, hstart] at hprefix
  exact ⟨rest, heq.trans (by rw [(List.cons_prefix_cons.mp hprefix).1])⟩

/-- White space before a text is trimmed away. -/
lemma trim_append_left {blanks : List Char} (h : ∀ c ∈ blanks, isBlank c) (cs : List Char) :
    trim (blanks ++ cs) = trim cs := by
  rw [trim, trim, trimStart, trimStart, List.dropWhile_append_of_pos h]

/-- White space behind a trimmed text is trimmed away. -/
lemma trim_append_right {blanks : List Char} (hcs : Trimmed cs) (hne : cs ≠ [])
    (h : ∀ c ∈ blanks, isBlank c) : trim (cs ++ blanks) = cs := by
  have hstart : trimStart (cs ++ blanks) = cs ++ blanks := by
    rw [trimStart_eq_self_iff, List.head?_append_of_ne_nil cs hne]
    exact hcs.start
  have hend : trimEnd (cs ++ blanks) = trimEnd cs := by
    have hreverse : ∀ c ∈ blanks.reverse, isBlank c := fun c hc => h c (List.mem_reverse.mp hc)
    rw [trimEnd, trimEnd, dropEndWhile, dropEndWhile, List.reverse_append,
      List.dropWhile_append_of_pos hreverse]
  rw [trim, hstart, hend, trimEnd_eq_self_iff.mpr hcs.finish]

/-- White space behind any text is trimmed away. -/
lemma trim_append_blanks {blanks : List Char} (h : ∀ c ∈ blanks, isBlank c) (cs : List Char) :
    trim (cs ++ blanks) = trim cs := by
  by_cases hnil : trim cs = []
  · rw [hnil, trim_eq_nil_iff]
    exact List.forall_mem_append.mpr ⟨trim_eq_nil_iff.mp hnil, h⟩
  · obtain ⟨before, after, hcs, hbefore, hafter⟩ := exists_trim cs
    have hblanks : ∀ c ∈ after ++ blanks, isBlank c := List.forall_mem_append.mpr ⟨hafter, h⟩
    conv_lhs => rw [hcs]
    rw [List.append_assoc, List.append_assoc, trim_append_left hbefore,
      trim_append_right (trimmed_trim cs) hnil hblanks]

/-- What stands between two trimmed texts does not matter. -/
lemma Trimmed.append {before after : List Char} (hbefore : Trimmed before) (hne : before ≠ [])
    (hafter : Trimmed after) (hne' : after ≠ []) (between : List Char) :
    Trimmed (before ++ between ++ after) where
  start := by
    rw [List.append_assoc, List.head?_append_of_ne_nil before hne]
    exact hbefore.start
  finish := by
    rw [List.getLast?_append_of_ne_nil _ hne']
    exact hafter.finish

/-! ## Dropping a start -/

lemma dropStart?_eq_some_iff {start cs rest : List Char} :
    dropStart? start cs = some rest ↔ cs = start ++ rest := by
  induction start generalizing cs with
  | nil => simp [dropStart?, eq_comm]
  | cons s start ih =>
      cases cs with
      | nil => simp [dropStart?]
      | cons c cs =>
          by_cases hs : s = c
          · simp [dropStart?, hs, ih]
          · simp [dropStart?, hs, Ne.symm hs]

/-! ## Splitting -/

variable {p : Char → Bool} {before after : List Char}

lemma splitOnce_eq_none_iff : splitOnce p cs = none ↔ ∀ c ∈ cs, p c = false := by
  induction cs with
  | nil => simp [splitOnce]
  | cons c cs ih => cases hc : p c <;> simp [splitOnce, hc, ih]

lemma splitOnce_append {c : Char} (hbefore : ∀ d ∈ before, p d = false) (hc : p c) :
    splitOnce p (before ++ c :: after) = some (before, after) := by
  induction before with
  | nil => simp [splitOnce, hc]
  | cons d before ih =>
      obtain ⟨hd, hbefore⟩ := List.forall_mem_cons.mp hbefore
      simp [splitOnce, hd, ih hbefore]

lemma splitOnce_eq_some_iff :
    splitOnce p cs = some (before, after) ↔
      ∃ c, cs = before ++ c :: after ∧ p c ∧ ∀ d ∈ before, p d = false := by
  refine ⟨fun h => ?_, ?_⟩
  · induction cs generalizing before with
    | nil => simp [splitOnce] at h
    | cons d cs ih =>
        cases hd : p d with
        | true =>
            simp only [splitOnce, hd, if_true, Option.some.injEq, Prod.mk.injEq] at h
            obtain ⟨rfl, rfl⟩ := h
            exact ⟨d, rfl, hd, by simp⟩
        | false =>
            simp only [splitOnce, hd, Bool.false_eq_true, if_false, Option.map_eq_some_iff,
              Prod.mk.injEq, Prod.exists] at h
            obtain ⟨front, back, hsplit, rfl, rfl⟩ := h
            obtain ⟨c, rfl, hc, hfront⟩ := ih hsplit
            exact ⟨c, rfl, hc, List.forall_mem_cons.mpr ⟨hd, hfront⟩⟩
  · rintro ⟨c, rfl, hc, hbefore⟩
    exact splitOnce_append hbefore hc

lemma splitAll_ne_nil : splitAll p cs ≠ [] := by
  cases cs with
  | nil => simp [splitAll]
  | cons c cs =>
      rw [splitAll]
      split
      · simp
      · split <;> simp

lemma splitAll_of_forall (h : ∀ c ∈ cs, p c = false) : splitAll p cs = [cs] := by
  induction cs with
  | nil => rfl
  | cons c cs ih =>
      obtain ⟨hc, hcs⟩ := List.forall_mem_cons.mp h
      simp [splitAll, hc, ih hcs]

lemma splitAll_append_cons {c : Char} (hbefore : ∀ d ∈ before, p d = false) (hc : p c) :
    splitAll p (before ++ c :: after) = before :: splitAll p after := by
  induction before with
  | nil => simp [splitAll, hc]
  | cons d before ih =>
      obtain ⟨hd, hbefore⟩ := List.forall_mem_cons.mp hbefore
      simp [splitAll, hd, ih hbefore]

/-- A character outside of the class starts the first piece. -/
lemma splitAll_cons_of_neg {c : Char} (hc : p c = false) (cs : List Char) :
    ∃ piece rest, splitAll p (c :: cs) = (c :: piece) :: rest := by
  rw [splitAll, if_neg (by simp [hc])]
  split
  · exact ⟨_, _, rfl⟩
  · exact ⟨_, _, rfl⟩

/-- Where the class holds, a text can be cut in two before it is split. -/
lemma splitAll_append_of_sep {c : Char} (hc : p c) (before after : List Char) :
    splitAll p (before ++ c :: after) = splitAll p before ++ splitAll p after := by
  induction before with
  | nil => simp [splitAll, hc]
  | cons d before ih =>
      have hne : splitAll p before ≠ [] := splitAll_ne_nil
      obtain ⟨piece, rest, hsplit⟩ := List.exists_cons_of_ne_nil hne
      cases hd : p d <;> simp [splitAll, hd, ih, hsplit]

/-- What is not in the class stands in a piece. -/
lemma mem_splitAll {c : Char} (hc : c ∈ cs) : p c ∨ ∃ piece ∈ splitAll p cs, c ∈ piece := by
  by_cases hp : p c
  · exact .inl hp
  · refine .inr ?_
    induction cs with
    | nil => cases hc
    | cons d cs ih =>
        have hne : splitAll p cs ≠ [] := splitAll_ne_nil
        obtain ⟨first, rest, hsplit⟩ := List.exists_cons_of_ne_nil hne
        rcases List.mem_cons.mp hc with rfl | hc
        · exact ⟨c :: first, by simp [splitAll, hp, hsplit]⟩
        · obtain ⟨piece, hpiece, hmem⟩ := ih hc
          rw [splitAll]
          split
          · exact ⟨piece, List.mem_cons_of_mem _ hpiece, hmem⟩
          · rw [hsplit] at hpiece ⊢
            rcases List.mem_cons.mp hpiece with rfl | hrest
            · exact ⟨d :: piece, List.mem_cons_self, List.mem_cons_of_mem d hmem⟩
            · exact ⟨piece, List.mem_cons_of_mem _ hrest, hmem⟩

/-- No piece has a character of the class. -/
lemma of_mem_splitAll {piece : List Char} (h : piece ∈ splitAll p cs) :
    ∀ c ∈ piece, p c = false := by
  induction cs generalizing piece with
  | nil =>
      cases List.mem_singleton.mp h
      exact nofun
  | cons d cs ih =>
      rw [splitAll] at h
      split at h
      · rcases List.mem_cons.mp h with rfl | h
        · exact nofun
        · exact ih h
      · rename_i hd
        have hne : splitAll p cs ≠ [] := splitAll_ne_nil
        obtain ⟨first, rest, hsplit⟩ := List.exists_cons_of_ne_nil hne
        simp only [hsplit] at h ih
        rcases List.mem_cons.mp h with rfl | h
        · exact List.forall_mem_cons.mpr ⟨by simpa using hd, ih (List.mem_cons_self ..)⟩
        · exact ih (List.mem_cons_of_mem _ h)

end Docket.Text
