import Docket.Proofs.Path.Display

/-!
# The characters of a path that is read

A path can be written in several ways: with white space around it, with leading zeros in its
positions, with a plus sign before them.  Whatever is read as a path has no other characters than
these and the characters of paths (`isPathChar_of_mem_parse?`), so none of the marks that stand
around a path in a tag (`not_mem_of_parse`).
-/

namespace Docket

open Docket.Numeral

/-! ## Numerals -/

namespace Numeral

lemma isDigit_of_digit?_ten {c : Char} {v : Nat} (h : digit? 10 c = some v) : isDigit c := by
  by_contra hc
  -- letters are digits only in larger bases
  simp only [digit?, hc] at h
  grind

lemma isDigit_of_mem_valueFrom {cs : List Char} {acc n : Nat} (h : valueFrom 10 acc cs = some n) :
    ∀ c ∈ cs, isDigit c := by
  induction cs generalizing acc with
  | nil => exact nofun
  | cons c cs ih =>
      obtain ⟨v, hv, hrest⟩ := Option.bind_eq_some_iff.mp h
      exact List.forall_mem_cons.mpr ⟨isDigit_of_digit?_ten hv, ih hrest⟩

lemma isDigit_of_mem_valueOf {cs : List Char} {n : Nat} (h : valueOf 10 cs = some n) :
    ∀ c ∈ cs, isDigit c := by
  cases cs with
  | nil => exact nofun
  | cons c cs => exact isDigit_of_mem_valueFrom h

/-- The characters of a position that is read. -/
lemma isDigit_or_plus_of_mem_unsigned? {cs : List Char} {n : Nat} (h : unsigned? cs = some n) :
    ∀ c ∈ cs, isDigit c ∨ c = '+' := by
  obtain ⟨m, hm, -⟩ := Option.bind_eq_some_iff.mp h
  split at hm
  · exact List.forall_mem_cons.mpr ⟨.inr rfl, fun c hc => .inl (isDigit_of_mem_valueOf hm c hc)⟩
  · exact fun c hc => .inl (isDigit_of_mem_valueOf hm c hc)

end Numeral

/-! ## Paths -/

namespace Path

/-- A character that a path may be written with. -/
def Written (c : Char) : Prop := isPathChar c ∨ c = '+'

lemma written_of_mem_unsigned? {digits : List Char} {n : Nat} (h : unsigned? digits = some n) :
    ∀ c ∈ digits, Written c := fun c hc =>
  (isDigit_or_plus_of_mem_unsigned? h c hc).imp_left fun hdigit => by
    simp [isPathChar, isNameChar_of_isDigit hdigit]

lemma written_of_mem_position? {piece : List Char} {s : Segment} (h : position? piece = some s) :
    ∀ c ∈ piece, Written c := by
  unfold position? at h
  split at h
  · obtain ⟨n, hn, -⟩ := Option.map_eq_some_iff.mp h
    exact List.forall_mem_cons.mpr ⟨.inl (by decide +kernel), written_of_mem_unsigned? hn⟩
  · cases h

lemma written_of_mem_positions {pieces : List (List Char)} {steps : List Segment}
    (h : List.Forall₂ (fun piece s => position? piece = some s) pieces steps) :
    ∀ piece ∈ pieces, ∀ c ∈ piece, Written c := by
  induction h with
  | nil => exact nofun
  | cons hs _ ih => exact List.forall_mem_cons.mpr ⟨written_of_mem_position? hs, ih⟩

lemma written_of_mem_positions? {run : List Char} {steps : List Segment}
    (h : positions? run = some steps) : ∀ c ∈ run, Written c := by
  unfold positions? at h
  split at h
  · rename_i hempty
    rw [List.isEmpty_iff.mp hempty]
    exact nofun
  · split at h
    · rename_i opened hpieces
      intro c hc
      rcases Text.mem_splitAll (p := (· == ']')) hc with hclosing | ⟨piece, hpiece, hc⟩
      · obtain rfl : c = ']' := beq_iff_eq.mp hclosing
        exact .inl (by decide +kernel)
      · -- the last piece is empty, the others are opened
        rw [← List.mem_reverse, hpieces] at hpiece
        rcases List.mem_cons.mp hpiece with rfl | hopened
        · cases hc
        · exact written_of_mem_positions (mapM_position?_iff.mp h) piece
            (List.mem_reverse.mpr hopened) c hc
    · cases h

lemma written_of_mem_partSteps? {isFirst : Bool} {part : List Char} {steps : List Segment}
    (h : partSteps? isFirst part = some steps) : ∀ c ∈ part, Written c := by
  have hsplit := List.takeWhile_append_dropWhile (p := (· ≠ '[')) (l := part)
  have hboth {name run : List Char} (hname : ∀ c ∈ name, Written c) (hrun : ∀ c ∈ run, Written c)
      (heq : name ++ run = part) : ∀ c ∈ part, Written c :=
    heq ▸ List.forall_mem_append.mpr ⟨hname, hrun⟩
  simp only [partSteps?] at h
  split at h
  · rename_i hempty
    split at h
    · cases h
    · rw [List.isEmpty_iff.mp hempty] at hsplit
      exact hboth (List.forall_mem_nil _) (written_of_mem_positions? h) hsplit
  · obtain ⟨step, hstep, hrest⟩ := Option.bind_eq_some_iff.mp h
    obtain ⟨positions, hpositions, -⟩ := Option.map_eq_some_iff.mp hrest
    refine hboth (fun c hc => .inl ?_) (written_of_mem_positions? hpositions) hsplit
    simp [isPathChar, isNameChar_of_nameStep? hstep c hc]

lemma written_of_mem_steps? {isFirst : Bool} {parts : List (List Char)} {steps : List Segment}
    (h : steps? isFirst parts = some steps) : ∀ part ∈ parts, ∀ c ∈ part, Written c := by
  induction parts generalizing isFirst steps with
  | nil => exact nofun
  | cons part rest ih =>
      obtain ⟨front, hfront, hrest⟩ := Option.bind_eq_some_iff.mp h
      obtain ⟨back, hback, -⟩ := Option.map_eq_some_iff.mp hrest
      exact List.forall_mem_cons.mpr ⟨written_of_mem_partSteps? hfront, ih hback⟩

lemma written_of_mem_ofChars? {cs : List Char} {p : Path} (h : ofChars? cs = some p) :
    ∀ c ∈ cs, Written c := by
  have hword {word : List Char} (hall : word.all isPathChar) : ∀ c ∈ word, Written c :=
    fun c hc => .inl (List.all_eq_true.mp hall c hc)
  unfold ofChars? at h
  split at h
  · subst cs
    exact hword (by decide +kernel)
  · split at h
    · subst cs
      exact hword (by decide +kernel)
    · split at h
      · subst cs
        exact hword (by decide +kernel)
      · obtain ⟨steps, hsteps, -⟩ := Option.map_eq_some_iff.mp h
        intro c hc
        rcases Text.mem_splitAll (p := (· == '.')) hc with hpoint | ⟨part, hpart, hc⟩
        · obtain rfl : c = '.' := beq_iff_eq.mp hpoint
          exact .inl (by decide +kernel)
        · exact written_of_mem_steps? hsteps part hpart c hc

/-- **The characters of a text that is read as a path.** -/
lemma isPathChar_of_mem_parse? {raw : String} {p : Path} (h : parse? raw = some p) :
    ∀ c ∈ raw.toList, isPathChar c ∨ c = '+' ∨ Text.isBlank c := by
  obtain ⟨before, after, hraw, hbefore, hafter⟩ := Text.exists_trim raw.toList
  have hread : ∀ c ∈ Text.trim raw.toList, Written c := written_of_mem_ofChars? h
  intro c hc
  rw [hraw, List.mem_append, List.mem_append] at hc
  rcases hc with (hc | hc) | hc
  · exact .inr (.inr (hbefore c hc))
  · exact (hread c hc).imp_right .inl
  · exact .inr (.inr (hafter c hc))

/-- The marks around a path are not among them. -/
lemma not_mem_of_parse {raw : String} {p : Path} (h : parse raw = .ok p) {c : Char}
    (hc : c ∈ outerMarks) : c ∉ raw.toList := by
  have hblank : outerMarks.all fun c => c ≠ '+' && !Text.isBlank c := by decide
  have hforeign := List.all_eq_true.mp hblank c hc
  simp only [Bool.and_eq_true, decide_eq_true_eq, Bool.not_eq_true'] at hforeign
  intro hmem
  rcases isPathChar_of_mem_parse? (parse_eq_ok_iff.mp h) c hmem with hpath | hplus | hspace
  · simp [isPathChar_of_mem_outerMarks c hc] at hpath
  · exact hforeign.1 hplus
  · simp [hforeign.2] at hspace

end Path

end Docket
