import Docket.Template.Tag
import Mathlib.Data.List.Chain
import Mathlib.Data.List.Infix

/-!
# Cutting bodies

`Cuts` says how a body falls into texts and tags: a text runs to the next pair of opening braces, a
tag from there to the first pair of closing braces behind.  `Cuts` speaks of the whole body only; a
body in which opening braces are never closed has no cut.

`cuts_iff` says that this is what cutting a body from left to right comes to.
-/

namespace Docket.Template

/-! ## Pairs of braces -/

/-- The braces before a tag. -/
def openingBraces : List Char := ['\x7b', '\x7b']

/-- The braces behind a tag. -/
def closingBraces : List Char := ['\x7d', '\x7d']

/-- A text as a piece; the empty text is none. -/
def Piece.ofText (cs : List Char) : List Piece := if cs = [] then [] else [.text cs]

/-- `Cuts cs pieces`: the body `cs` falls into `pieces`. -/
inductive Cuts : List Char → List Piece → Prop where
  /-- Without opening braces all is text. -/
  | text {cs : List Char} : ¬ openingBraces <:+: cs → Cuts cs (Piece.ofText cs)
  /-- The first opening braces stand behind `before`, and the first closing braces after them stand
  behind `inner`. -/
  | tag {before inner rest : List Char} {pieces : List Piece} :
    ¬ openingBraces <:+: before ++ ['\x7b'] → ¬ closingBraces <:+: inner ++ ['\x7d'] →
      Cuts rest pieces →
      Cuts (before ++ openingBraces ++ inner ++ closingBraces ++ rest)
        (Piece.ofText before ++ .tag inner :: pieces)

/-- A tag at the start of a body is a piece of its own. -/
lemma Cuts.cons_tag {inner rest : List Char} {pieces : List Piece}
    (hinner : ¬ closingBraces <:+: inner ++ ['\x7d']) (h : Cuts rest pieces) :
    Cuts (openingBraces ++ inner ++ closingBraces ++ rest) (.tag inner :: pieces) :=
  .tag (fun hpair => absurd hpair.length_le (by decide) : ¬ openingBraces <:+: [] ++ _) hinner h

/-- If a pair of equal characters occurs, it has a first occurrence. -/
lemma exists_first_pair {c : Char} {cs : List Char} (h : [c, c] <:+: cs) :
    ∃ before rest, cs = before ++ [c, c] ++ rest ∧ ¬ [c, c] <:+: before ++ [c] := by
  induction cs with
  | nil => simp at h
  | cons d cs ih =>
      by_cases hstart : [c, c] <+: d :: cs
      · obtain ⟨rest, hrest⟩ := hstart
        exact ⟨[], rest, by simpa using hrest.symm, fun hc => by simpa using hc.length_le⟩
      · obtain ⟨before, rest, rfl, hfirst⟩ :=
          ih ((List.infix_cons_iff.mp h).resolve_left hstart)
        refine ⟨d :: before, rest, by simp, fun hc => ?_⟩
        rcases List.infix_cons_iff.mp hc with hc | hc
        · exact hstart (hc.trans ⟨c :: rest, by simp⟩)
        · exact hfirst hc

/-- A pair occurs nowhere if no two neighbours make it. -/
lemma not_pair_iff_isChain {c : Char} {cs : List Char} :
    ¬ [c, c] <:+: cs ↔ cs.IsChain fun a b => ¬ (a = c ∧ b = c) := by
  rw [List.isChain_iff_forall_rel_of_append_cons_cons]
  constructor
  · rintro h a b before after rfl ⟨rfl, rfl⟩
    exact h ⟨before, after, by simp⟩
  · rintro h ⟨before, after, rfl⟩
    exact h (List.append_assoc before [c, c] after) ⟨rfl, rfl⟩

/-- A pair that occurs in neither of two texts occurs in both together only where they meet. -/
lemma not_pair_append {c : Char} {before after : List Char} (hbefore : ¬ [c, c] <:+: before)
    (hafter : ¬ [c, c] <:+: after) (h : before.getLast? ≠ some c ∨ after.head? ≠ some c) :
    ¬ [c, c] <:+: before ++ after := by
  rw [not_pair_iff_isChain] at hbefore hafter ⊢
  refine List.isChain_append.mpr ⟨hbefore, hafter, ?_⟩
  rintro a ha b hb ⟨rfl, rfl⟩
  exact h.elim (· ha) (· hb)

/-- A text without the character makes no pair with one behind it. -/
lemma not_pair_concat_of_not_mem {c : Char} {cs : List Char} (h : c ∉ cs) :
    ¬ [c, c] <:+: cs ++ [c] := by
  intro hpair
  have hcount := hpair.sublist.count_le c
  simp [List.count_eq_zero_of_not_mem h] at hcount

/-- A text that makes no pair with one more of its characters behind it makes none with a text
behind it that has none. -/
lemma not_pair_append_of_concat {c : Char} {before after : List Char}
    (hbefore : ¬ [c, c] <:+: before ++ [c]) (hafter : ¬ [c, c] <:+: after) :
    ¬ [c, c] <:+: before ++ after := by
  have hchain := List.isChain_append.mp (not_pair_iff_isChain.mp hbefore)
  have hlast : before.getLast? ≠ some c := fun heq => hchain.2.2 c heq c rfl ⟨rfl, rfl⟩
  exact not_pair_append (not_pair_iff_isChain.mpr hchain.1) hafter (.inl hlast)

/-- One character by itself makes no pair. -/
lemma not_pair_singleton (c d : Char) : ¬ [c, c] <:+: [d] := fun hpair => by
  simpa using hpair.length_le

lemma not_infix_of_not_infix_cons {c d : Char} {cs : List Char} (h : ¬ [c, c] <:+: d :: cs) :
    ¬ [c, c] <:+: cs := fun hc => h (List.infix_cons_iff.mpr (.inr hc))

/-- Before its first occurrence a pair does not start. -/
lemma not_pair_prefix {c d : Char} {cs rest : List Char} (h : ¬ [c, c] <:+: d :: cs ++ [c]) :
    ¬ [c, c] <+: d :: cs ++ [c, c] ++ rest := by
  intro hstart
  refine h (List.IsPrefix.isInfix ?_)
  cases cs with
  | nil => simpa using hstart
  | cons e cs => simpa using hstart

/-! ## Cutting from left to right -/

lemma ofChars_cons {c : Char} {cs : List Char} (h : ¬ openingBraces <+: c :: cs) :
    Cut.ofChars (c :: cs) = (Cut.ofChars cs).addChar c := by
  rw [Cut.ofChars]
  rintro rest rfl rfl
  exact h ⟨rest, rfl⟩

lemma ofTag_cons {c : Char} {cs : List Char} (h : ¬ closingBraces <+: c :: cs) :
    Cut.ofTag (c :: cs) = (Cut.ofTag cs).map fun (inner, cut) => (c :: inner, cut) := by
  rw [Cut.ofTag]
  rintro rest rfl rfl
  exact h ⟨rest, rfl⟩

/-- A tag ends at the first closing braces. -/
lemma ofTag_append {inner rest : List Char} (h : ¬ closingBraces <:+: inner ++ ['\x7d']) :
    Cut.ofTag (inner ++ closingBraces ++ rest) = some (inner, Cut.ofChars rest) := by
  induction inner with
  | nil => rw [closingBraces]; simp [Cut.ofTag]
  | cons c inner ih =>
      have hstart : ¬ closingBraces <+: c :: (inner ++ closingBraces ++ rest) := not_pair_prefix h
      rw [List.cons_append, List.cons_append, ofTag_cons hstart]
      exact congrArg _ (ih (not_infix_of_not_infix_cons h))

/-- Without closing braces a tag does not end. -/
lemma ofTag_eq_none {cs : List Char} (h : ¬ closingBraces <:+: cs) : Cut.ofTag cs = none := by
  induction cs with
  | nil => rw [Cut.ofTag]
  | cons c cs ih =>
      rw [ofTag_cons fun hc => h hc.isInfix, ih (not_infix_of_not_infix_cons h)]
      rfl

/-- A character of text goes to the text in front. -/
lemma addChar_ofText (c : Char) (before : List Char) {pieces : List Piece}
    (unclosed : Option (List Char)) (h : ∀ cs, pieces.head? ≠ some (.text cs)) :
    Cut.addChar c ⟨Piece.ofText before ++ pieces, unclosed⟩ =
      ⟨Piece.ofText (c :: before) ++ pieces, unclosed⟩ := by
  by_cases hbefore : before = []
  · subst hbefore
    match pieces, h with
    | [], _ => rfl
    | .tag _ :: _, _ => rfl
    | .text cs :: _, h => exact absurd rfl (h cs)
  · simp [Piece.ofText, hbefore, Cut.addChar]

lemma ofChars_of_all_text {cs : List Char} (h : ¬ openingBraces <:+: cs) :
    Cut.ofChars cs = ⟨Piece.ofText cs, none⟩ := by
  induction cs with
  | nil => rw [Cut.ofChars]; rfl
  | cons c cs ih =>
      rw [ofChars_cons fun hc => h hc.isInfix, ih (not_infix_of_not_infix_cons h)]
      have hnil : ∀ cs, ([] : List Piece).head? ≠ some (.text cs) := by simp
      simpa using addChar_ofText c cs none hnil

lemma ofChars_append {before rest : List Char} (h : ¬ openingBraces <:+: before ++ ['\x7b']) :
    Cut.ofChars (before ++ openingBraces ++ rest) =
      match Cut.ofTag rest with
      | none => ⟨Piece.ofText before, some (openingBraces ++ rest)⟩
      | some (inner, cut) =>
        { cut with pieces := Piece.ofText before ++ .tag inner :: cut.pieces } := by
  induction before with
  | nil =>
      rw [openingBraces]
      simp only [List.nil_append, List.cons_append, Cut.ofChars]
      cases Cut.ofTag rest <;> rfl
  | cons c before ih =>
      have hstart : ¬ openingBraces <+: c :: (before ++ openingBraces ++ rest) := not_pair_prefix h
      rw [List.cons_append, List.cons_append, ofChars_cons hstart]
      refine (congrArg _ (ih (not_infix_of_not_infix_cons h))).trans ?_
      cases Cut.ofTag rest with
      | none =>
          have hnil : ∀ cs, ([] : List Piece).head? ≠ some (.text cs) := by simp
          simpa using addChar_ofText c before _ hnil
      | some tag => exact addChar_ofText c before _ (by simp)

lemma ofChars_of_cuts {cs : List Char} {pieces : List Piece} (h : Cuts cs pieces) :
    Cut.ofChars cs = ⟨pieces, none⟩ := by
  induction h with
  | text h => exact ofChars_of_all_text h
  | @tag before inner rest pieces hbefore hinner _ ih =>
      rw [List.append_assoc, List.append_assoc, ofChars_append hbefore, ← List.append_assoc,
        ofTag_append hinner, ih]

lemma cuts_of_ofChars {cs : List Char} {pieces : List Piece}
    (h : Cut.ofChars cs = ⟨pieces, none⟩) : Cuts cs pieces := by
  by_cases hopening : openingBraces <:+: cs
  · obtain ⟨before, behind, rfl, hbefore⟩ := exists_first_pair hopening
    change Cut.ofChars (before ++ openingBraces ++ behind) = _ at h
    rw [ofChars_append hbefore] at h
    by_cases hclosing : closingBraces <:+: behind
    · obtain ⟨inner, rest, rfl, hinner⟩ := exists_first_pair hclosing
      have htag : Cut.ofTag (inner ++ [_, _] ++ rest) = _ := ofTag_append hinner
      rw [htag] at h
      obtain ⟨rfl, hunclosed⟩ : Piece.ofText before ++ .tag inner :: (Cut.ofChars rest).pieces =
          pieces ∧ (Cut.ofChars rest).unclosed = none := by simpa using h
      have hrest : Cut.ofChars rest = ⟨(Cut.ofChars rest).pieces, none⟩ := by rw [← hunclosed]
      have hcuts := Cuts.tag hbefore hinner (cuts_of_ofChars hrest)
      simpa [closingBraces, openingBraces] using hcuts
    · rw [ofTag_eq_none hclosing] at h
      cases h
  · rw [ofChars_of_all_text hopening] at h
    cases h
    exact .text hopening
termination_by cs.length
decreasing_by
  subst_vars
  simp only [List.length_append, List.length_cons]
  omega

/-- **Cutting from left to right** finds the cut of a body, and leaves braces unclosed exactly if
there is none. -/
lemma cuts_iff {cs : List Char} {pieces : List Piece} :
    Cuts cs pieces ↔ Cut.ofChars cs = ⟨pieces, none⟩ :=
  ⟨ofChars_of_cuts, cuts_of_ofChars⟩

end Docket.Template
