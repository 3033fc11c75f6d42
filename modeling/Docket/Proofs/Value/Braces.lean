import Docket.Proofs.Number.Text
import Docket.Proofs.Template.Arguments
import Docket.Proofs.Text.Casing
import Docket.Proofs.Value.Texts

/-!
# Braces in displayed values

A value whose texts and keys have no opening brace (`Value.BraceFree`) is not displayed without
opening braces: a map has its own.  But in compact notation each of them stands right before a
double quote or a closing brace, so none stands before another one or at the end (`BracesLead`).

Filters keep that.  What they make of such a value is again free of braces, or a text whose braces
lead (`Value.Tame`): joining puts such texts side by side, changing case leaves the marks where they
are, and trimming cannot leave a brace at the end, since no white space stands behind one
(`Filter.tame_apply`).
-/

namespace Docket

open Docket.Template

/-! ## Texts whose braces lead -/

/-- Every opening brace of a text stands right before a double quote or a closing brace. -/
def BracesLead : List Char → Prop
  | [] => True
  | c :: cs => (c = '\x7b' → cs.head? = some '"' ∨ cs.head? = some '\x7d') ∧ BracesLead cs

namespace BracesLead

variable {cs cs' a b : List Char}

lemma of_not_mem (h : '\x7b' ∉ cs) : BracesLead cs := by
  induction cs with
  | nil => trivial
  | cons c cs ih =>
      rw [List.mem_cons, not_or] at h
      exact ⟨fun hc => absurd hc.symm h.1, ih h.2⟩

lemma append (ha : BracesLead a) (hb : BracesLead b) : BracesLead (a ++ b) := by
  induction a with
  | nil => exact hb
  | cons c a ih =>
      obtain ⟨hc, ha⟩ := ha
      refine ⟨fun heq => ?_, ih ha⟩
      cases a with
      | nil => simpa using hc heq
      | cons d a => exact hc heq

/-- What stands behind any beginning of such a text. -/
lemma of_append_right (h : BracesLead (a ++ b)) : BracesLead b := by
  induction a with
  | nil => exact h
  | cons c a ih => exact ih h.2

/-- White space at the end does not stand behind a brace. -/
lemma of_append_left (h : BracesLead (a ++ b)) (hb : ∀ c ∈ b, Text.isBlank c) : BracesLead a := by
  induction a with
  | nil => trivial
  | cons c a ih =>
      obtain ⟨hc, ha⟩ := h
      refine ⟨fun heq => ?_, ih ha⟩
      cases a with
      | nil =>
          have hhead (m : Char) (hm : Text.isBlank m = false) : b.head? ≠ some m := by
            intro hhead
            have hblank := hb m (List.mem_of_mem_head? hhead)
            simp [hm] at hblank
          exact absurd (hc heq) (not_or.mpr ⟨hhead _ (by decide), hhead _ (by decide)⟩)
      | cons d a => exact hc heq

lemma trim (h : BracesLead cs) : BracesLead (Text.trim cs) := by
  obtain ⟨before, after, heq, -, hafter⟩ := Text.exists_trim cs
  rw [heq, List.append_assoc] at h
  exact h.of_append_right.of_append_left hafter

/-- Where marks are kept, braces go on to lead. -/
lemma of_keepsMarks (h : BracesLead cs) (hkeeps : Text.KeepsMarks cs cs') : BracesLead cs' := by
  induction hkeeps with
  | nil => trivial
  | @cons c image cs cs' himage hrest ih =>
      obtain ⟨hc, hcs⟩ := h
      by_cases hbrace : c = '\x7b'
      · -- the mark behind the brace is the image of the mark behind it
        have hhead (m : Char) (hm : m ∈ Text.braceMarks) (heq : cs.head? = some m) :
            cs'.head? = some m := by
          cases hrest with
          | nil => cases heq
          | cons hmark _ =>
              obtain rfl := Option.some.inj heq
              rw [hmark.marks hm]
              rfl
        rw [himage.marks (hbrace ▸ by decide)]
        exact ⟨fun _ => (hc hbrace).imp (hhead _ (by decide)) (hhead _ (by decide)), ih hcs⟩
      · exact (of_not_mem (himage.others hbrace)).append (ih hcs)

/-- Braces that lead make no pair, not even with another brace behind the text. -/
lemma not_pair (h : BracesLead cs) : ¬ openingBraces <:+: cs ++ ['\x7b'] := by
  induction cs with
  | nil => exact not_pair_singleton _ _
  | cons c cs ih =>
      intro hpair
      rcases List.infix_cons_iff.mp hpair with hstart | hrest
      · obtain ⟨rfl, hnext⟩ := List.cons_prefix_cons.mp hstart
        cases cs with
        | nil => simpa using h.1 rfl
        | cons d cs =>
            obtain ⟨rfl, -⟩ := List.cons_prefix_cons.mp hnext
            simpa using h.1 rfl
      · exact ih h.2 hrest

end BracesLead

/-! ## Displayed values -/

namespace Value

/-- Whether a text has no opening brace. -/
def isBraceFree (s : String) : Bool := !s.toList.contains '\x7b'

/-- No text and no key in a value has an opening brace. -/
def BraceFree (v : Value) : Prop := v.everyText isBraceFree

instance (v : Value) : Decidable v.BraceFree := inferInstanceAs (Decidable (_ = true))

lemma not_mem_of_isBraceFree {s : String} (h : isBraceFree s) : '\x7b' ∉ s.toList := by
  simpa [isBraceFree] using h

lemma not_mem_escapeChar {c : Char} (hc : c ≠ '\x7b') : '\x7b' ∉ escapeChar c := by
  have hcontrols : ∀ n < 32, '\x7b' ∉ hexFour n := by decide +kernel
  rw [escapeChar.eq_def]
  split <;> try decide
  split
  · rename_i hlow
    simpa using hcontrols _ hlow
  · simpa using hc.symm

lemma not_mem_escaped {s : String} (h : isBraceFree s) : '\x7b' ∉ escaped s := by
  have hchars : '\x7b' ∉ s.toList.flatMap escapeChar := by
    intro hmem
    obtain ⟨c, hc, hbrace⟩ := List.mem_flatMap.mp hmem
    refine not_mem_escapeChar (fun heq => ?_) hbrace
    exact not_mem_of_isBraceFree h (heq ▸ hc)
  simp [escaped, hchars]

/-- No number is written with a brace, an infinity or an undefined value neither. -/
lemma not_mem_chars (n : Number) : '\x7b' ∉ n.chars := by
  by_cases hfinite : n.isFinite
  · exact fun hmem => absurd (Number.isNumeral_of_mem_chars hfinite hmem) (by decide)
  · cases n with
    | whole n => exact absurd rfl hfinite
    | double d =>
        have hfinite' : d.isFinite = false := by simpa [Number.isFinite] using hfinite
        simp only [Number.chars, Layout.text, hfinite']
        split
        · decide
        · simp [Layout.data]

mutual

/-- **In compact notation braces lead**, if no text and no key has one. -/
lemma bracesLead_compactChars : (v : Value) → v.BraceFree → BracesLead v.compactChars
  | null, _ | bool true, _ | bool false, _ => .of_not_mem (by simp only [compactChars]; decide)
  | number n, _ => .of_not_mem (not_mem_chars n)
  | text s, h => .of_not_mem (not_mem_escaped h)
  | list items, h => by
      have hitems := bracesLead_compactItems items (everyText_list_iff.mp h)
      exact ⟨by simp, hitems.append (.of_not_mem (by decide))⟩
  | map entries, h => by
      have hentries := bracesLead_compactEntries entries (everyText_map_iff.mp h)
      refine ⟨fun _ => ?_, hentries.append (.of_not_mem (by decide))⟩
      -- the brace stands before the quote of the first key, or else before the closing brace
      match entries with
      | [] => exact .inr rfl
      | [(k, v)] => exact .inl rfl
      | (k, v) :: e :: rest => exact .inl rfl

lemma bracesLead_compactItems :
    (items : List Value) → (∀ v ∈ items, v.BraceFree) → BracesLead (compactItems items)
  | [], _ => trivial
  | [v], h => bracesLead_compactChars v (h v List.mem_cons_self)
  | v :: w :: rest, h => by
      obtain ⟨hv, hrest⟩ := List.forall_mem_cons.mp h
      rw [compactItems]
      · exact (bracesLead_compactChars v hv).append
          ⟨by simp, bracesLead_compactItems (w :: rest) hrest⟩
      · simp

lemma bracesLead_compactEntries :
    (entries : List (String × Value)) → (∀ e ∈ entries, isBraceFree e.1 ∧ e.2.BraceFree) →
      BracesLead (compactEntries entries)
  | [], _ => trivial
  | [(k, v)], h => by
      obtain ⟨hk, hv⟩ := h (k, v) List.mem_cons_self
      exact (BracesLead.of_not_mem (not_mem_escaped hk)).append
        ⟨by simp, bracesLead_compactChars v hv⟩
  | (k, v) :: e :: rest, h => by
      obtain ⟨⟨hk, hv⟩, hrest⟩ := List.forall_mem_cons.mp h
      rw [compactEntries]
      · exact (BracesLead.of_not_mem (not_mem_escaped hk)).append
          ⟨by simp, (bracesLead_compactChars v hv).append
            ⟨by simp, bracesLead_compactEntries (e :: rest) hrest⟩⟩
      · simp

end

lemma bracesLead_display {v : Value} (h : v.BraceFree) : BracesLead v.display.toList := by
  cases v with
  | null => trivial
  | text s => exact .of_not_mem (not_mem_of_isBraceFree h)
  | _ => simpa [display, compact] using bracesLead_compactChars _ h

end Value

/-! ## Filters -/

namespace Value

/-- A value that is displayed so that braces lead: one without opening braces in its texts and keys,
or a text in which they lead. -/
def Tame (v : Value) : Prop := v.BraceFree ∨ ∃ s, v = text s ∧ BracesLead s.toList

lemma Tame.bracesLead_display {v : Value} (h : v.Tame) : BracesLead v.display.toList := by
  rcases h with h | ⟨s, rfl, h⟩
  · exact Value.bracesLead_display h
  · exact h

end Value

namespace Filter

/-- The filters that put no brace where none was, and part none from the mark behind it. -/
def keepingBraces : List Filter := [upper, lower, trim, capitalize, length, join, default]

variable {v w : Value} {path : String}

lemma tame_onText {f : List Char → List Char} (hf : ∀ cs, BracesLead cs → BracesLead (f cs))
    (hv : v.Tame) (h : onText path f v = .ok w) : w.Tame := by
  have htext : ∃ s, w = .text s ∧ s.toList = f v.display.toList := by
    unfold onText at h
    split at h
    · cases h
    · cases h
    · cases h
      exact ⟨_, rfl, String.toList_ofList⟩
  obtain ⟨s, rfl, hs⟩ := htext
  exact .inr ⟨s, rfl, hs ▸ hf _ hv.bracesLead_display⟩

lemma tame_lengthOf (h : lengthOf path v = .ok w) : w.Tame := by
  unfold lengthOf at h
  split at h <;> cases h <;> exact .inl rfl

lemma tame_joined {separator : Option Value} (hseparator : ∀ s ∈ separator, s.BraceFree)
    (hv : v.Tame) (h : joined path separator v = .ok w) : w.Tame := by
  cases v with
  | list items =>
      cases h
      have hitems : ∀ v ∈ items, v.BraceFree := by
        rcases hv with hv | ⟨s, hs, -⟩
        · exact Value.everyText_list_iff.mp hv
        · cases hs
      refine .inr ⟨_, rfl, ?_⟩
      rw [String.toList_intercalate]
      refine intercalate_of_append trivial BracesLead.append ?_ fun piece hpiece => ?_
      · cases separator with
        | none => exact .of_not_mem (by decide)
        | some s => exact Value.bracesLead_display (hseparator s rfl)
      · obtain ⟨t, ht, rfl⟩ := List.mem_map.mp hpiece
        obtain ⟨v, hv, rfl⟩ := List.mem_map.mp ht
        exact Value.bracesLead_display (hitems v hv)
  | _ => cases h

lemma tame_orDefault {fallback : Value} (hfallback : fallback.BraceFree) (hv : v.Tame) :
    (orDefault fallback v).Tame := by
  unfold orDefault
  split
  · exact .inl hfallback
  · split
    · exact .inl hfallback
    · exact hv
  · exact hv

/-- **One filter keeps a value tame**, if its arguments have no opening brace. -/
lemma tame_apply {f : Filter} (hf : f ∈ keepingBraces) {args : List Value}
    (hargs : ∀ a ∈ args, a.BraceFree) (hv : v.Tame) (h : f.apply v args path = .ok w) : w.Tame := by
  cases f with
  | upper => exact tame_onText (fun cs hcs => hcs.of_keepsMarks (Text.keepsMarks_upper cs)) hv h
  | lower => exact tame_onText (fun cs hcs => hcs.of_keepsMarks (Text.keepsMarks_lower cs)) hv h
  | capitalize =>
      exact tame_onText (fun cs hcs => hcs.of_keepsMarks (Text.keepsMarks_capitalizeChars cs)) hv h
  | trim => exact tame_onText (fun _ => BracesLead.trim) hv h
  | length => exact tame_lengthOf h
  | join => exact tame_joined (fun s hs => hargs s (List.mem_of_mem_head? hs)) hv h
  | default =>
      cases h
      refine tame_orDefault ?_ hv
      cases args with
      | nil => rfl
      | cons a rest => exact hargs a List.mem_cons_self
  | _ => exact absurd hf (by decide)

end Filter

end Docket
