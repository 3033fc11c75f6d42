import Docket.Filter.Apply
import Docket.Proofs.Text.Trimming

/-!
# Marks under a change of case

Braces and quotes have no case, and no other character becomes an opening brace when its case is
changed.  So a text whose case is changed has its opening braces, and the marks next to them, where
they were: `upper`, `lower` and `capitalizeChars` keep marks (`keepsMarks_upper`,
`keepsMarks_lower`, `keepsMarks_capitalizeChars`).  For single characters this is read off the
tables (`keepsMark_mapCase`).
-/

namespace Docket.Text

/-- The opening brace, and the marks that stand behind it in compact notation. -/
def braceMarks : List Char := ['\x7b', '\x7d', '"']

/-- A mark is its own image, and the image of another character has no opening brace. -/
structure KeepsMark (c : Char) (image : List Char) : Prop where
  marks : c ∈ braceMarks → image = [c]
  others : c ≠ '\x7b' → '\x7b' ∉ image

/-- A text that is put together from the images of all characters of another one. -/
inductive KeepsMarks : List Char → List Char → Prop where
  | nil : KeepsMarks [] []
  | cons {c : Char} {image cs cs' : List Char} : KeepsMark c image → KeepsMarks cs cs' →
    KeepsMarks (c :: cs) (image ++ cs')

/-! ## Single characters -/

lemma mem_of_shifted?_eq_some {shifts : List Shift} {n m : Nat} (h : shifted? shifts n = some m) :
    ∃ s ∈ shifts, s.first ≤ n ∧ n ≤ s.last ∧ m = (n + s.distance).toNat := by
  induction shifts with
  | nil => cases h
  | cons s rest ih =>
      rw [shifted?] at h
      split at h
      · cases h
      · rename_i hfirst
        split at h
        · rename_i hlast
          split at h
          · cases h
            exact ⟨s, List.mem_cons_self, Nat.le_of_not_lt hfirst, hlast, rfl⟩
          · cases h
        · obtain ⟨s', hs', hspan⟩ := ih h
          exact ⟨s', List.mem_cons_of_mem s hs', hspan⟩

/-- Whether no mark lies in the spans, and no code point of them is moved to the opening brace. -/
def shiftsKeepMarks (shifts : List Shift) : Bool :=
  shifts.all fun s => (braceMarks.all fun c => c.toNat < s.first || s.last < c.toNat) &&
    (123 < s.first + s.distance || s.last + s.distance < 123)

/-- Whether no mark has a longer image, and no longer image has an opening brace. -/
def imagesKeepMarks (many : List (Nat × List Nat)) : Bool :=
  many.all fun e => (braceMarks.all fun c => c.toNat != e.1) &&
    e.2.all fun n => Char.ofNat n != '\x7b'

lemma ofNat_ne_openingBrace {n : Nat} (h : n ≠ 123) : Char.ofNat n ≠ '\x7b' := by
  by_cases hvalid : n.isValidChar
  · rw [Char.ofNat, dif_pos hvalid]
    exact fun heq => h (congrArg Char.toNat heq)
  · rw [Char.ofNat, dif_neg hvalid]
    decide

section

variable {shifts : List Shift} {many : List (Nat × List Nat)} (hshifts : shiftsKeepMarks shifts)
  (hmany : imagesKeepMarks many) {c : Char}

include hshifts in
lemma openingBrace_ne_of_shifted? {m : Nat} (h : shifted? shifts c.toNat = some m) :
    c ∉ braceMarks ∧ '\x7b' ≠ Char.ofNat m := by
  obtain ⟨s, hs, hfirst, hlast, rfl⟩ := mem_of_shifted?_eq_some h
  obtain ⟨hmarks, hmoved⟩ := Bool.and_eq_true_iff.mp (List.all_eq_true.mp hshifts s hs)
  simp only [Bool.or_eq_true, decide_eq_true_eq] at hmoved
  refine ⟨fun hc => ?_, (ofNat_ne_openingBrace (by omega)).symm⟩
  have houtside := List.all_eq_true.mp hmarks c hc
  simp only [Bool.or_eq_true, decide_eq_true_eq] at houtside
  omega

include hmany in
lemma openingBrace_notMem_of_lookup {image : List Nat} (h : many.lookup c.toNat = some image) :
    c ∉ braceMarks ∧ '\x7b' ∉ image.map Char.ofNat := by
  obtain ⟨before, after, hsplit, -⟩ := List.lookup_eq_some_iff.mp h
  have hentry : (c.toNat, image) ∈ many := hsplit ▸ List.mem_append_cons_self
  obtain ⟨hmarks, hbrace⟩ := Bool.and_eq_true_iff.mp (List.all_eq_true.mp hmany _ hentry)
  refine ⟨fun hc => ?_, fun hmem => ?_⟩
  · simpa using List.all_eq_true.mp hmarks c hc
  · obtain ⟨n, hn, heq⟩ := List.mem_map.mp hmem
    simpa [heq] using List.all_eq_true.mp hbrace n hn

include hshifts hmany in
/-- Images under two tables keep marks if the tables say so. -/
lemma keepsMark_mapCase : KeepsMark c (mapCase shifts many c) := by
  rw [mapCase]
  split
  · rename_i image himage
    obtain ⟨hc, hbrace⟩ := openingBrace_notMem_of_lookup hmany himage
    exact ⟨fun hmark => absurd hmark hc, fun _ => hbrace⟩
  · split
    · rename_i m hm
      obtain ⟨hc, hbrace⟩ := openingBrace_ne_of_shifted? hshifts hm
      exact ⟨fun hmark => absurd hmark hc, fun _ => by simpa using hbrace⟩
    · exact ⟨fun _ => rfl, fun hc => by simpa using hc.symm⟩

end

lemma keepsMark_upperChar (c : Char) : KeepsMark c (upperChar c) :=
  keepsMark_mapCase (by decide +kernel) (by decide +kernel)

lemma keepsMark_lowerChar (c : Char) : KeepsMark c (lowerChar c) :=
  keepsMark_mapCase (by decide +kernel) (by decide +kernel)

/-! ## Texts -/

lemma keepsMarks_flatMap {f : Char → List Char} (h : ∀ c, KeepsMark c (f c)) (cs : List Char) :
    KeepsMarks cs (cs.flatMap f) := by
  induction cs with
  | nil => exact .nil
  | cons c cs ih => exact .cons (h c) ih

lemma keepsMarks_upper (cs : List Char) : KeepsMarks cs (upper cs) :=
  keepsMarks_flatMap keepsMark_upperChar cs

lemma keepsMarks_lowerAfter (before cs : List Char) : KeepsMarks cs (lowerAfter before cs) := by
  induction cs generalizing before with
  | nil => exact .nil
  | cons c cs ih =>
      refine .cons ?_ (ih _)
      split
      · -- neither sigma is a mark
        subst c
        split <;> exact ⟨by decide, by decide⟩
      · exact keepsMark_lowerChar c

lemma keepsMarks_lower (cs : List Char) : KeepsMarks cs (lower cs) := keepsMarks_lowerAfter [] cs

lemma keepsMarks_capitalizeChars (cs : List Char) : KeepsMarks cs (Filter.capitalizeChars cs) := by
  cases cs with
  | nil => exact .nil
  | cons c cs => exact .cons (keepsMark_upperChar c) (keepsMarks_flatMap keepsMark_lowerChar cs)

end Docket.Text
