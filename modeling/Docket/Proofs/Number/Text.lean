import Docket.Number.Basic
import Docket.Proofs.Number.Numeral
import Docket.Proofs.Number.Rounding
import Mathlib.Tactic.FieldSimp

/-!
# Texts of numbers

Different numbers have different texts.  A text of a finite double is read back by
`Numeral.decimal?` as a decimal of the size that `Double.shortest` chose, and rounding that decimal
gives the double again.

The layouts move the point and pad with zeros, so the decimal that is read need not have the digits
of the one that was written.  What they share is the size, and rounding depends on nothing else.
-/

namespace Docket

/-! ## The shortest decimal -/

namespace Double

lemma decimalOfLength?_readsBack {d : Double} {length n : Nat} {power : Int}
    (h : d.decimalOfLength? length = some (n, power)) : ofDecimal d.negative n power = d := by
  simp only [decimalOfLength?] at h
  split at h
  · rename_i hlow hhigh
    split at h <;> cases h
    · exact eq_of_beq hlow
    · exact eq_of_beq hhigh
  · rename_i hlow _
    cases h
    exact eq_of_beq hlow
  · rename_i _ hhigh
    cases h
    exact eq_of_beq hhigh
  · cases h

lemma ratio_den (d : Double) : ∃ k ≤ 1074, d.ratio.2 = 2 ^ k := by
  rw [ratio]
  split
  · exact ⟨0, Nat.zero_le _, rfl⟩
  · rename_i e heq
    refine ⟨e + 1, ?_, rfl⟩
    rw [exponent] at heq
    split at heq <;> omega

/-- The exact value of a double, which stands behind the seventeen tries, reads back. -/
lemma ofDecimal_exact {d : Double} (h : d.isFinite) (hzero : ¬ d.isZero) :
    ofDecimal d.negative (d.ratio.1 * Nat.pow 5 d.ratio.2.log2) (-(d.ratio.2.log2 : Int)) = d := by
  obtain ⟨k, hk, hden⟩ := d.ratio_den
  have hnum : d.ratio.1 ≠ 0 := by
    intro hnum
    have hround := ofRatio_ratio h hzero
    rw [hnum, ofRatio, if_pos rfl] at hround
    rw [← hround] at hzero
    exact hzero (by cases d.negative <;> decide)
  have hfive : d.ratio.1 * Nat.pow 5 k ≠ 0 :=
    Nat.mul_ne_zero hnum (Nat.pow_pos (by decide)).ne'
  -- Four to the power of `k` is enough of a lower bound for the length of the decimal.
  have hlog : 2 * k ≤ (d.ratio.1 * Nat.pow 5 k).log2 := by
    rw [Nat.le_log2 hfive, Nat.pow_mul]
    calc (2 ^ 2) ^ k ≤ 5 ^ k := Nat.pow_le_pow_left (by decide) k
      _ ≤ d.ratio.1 * 5 ^ k := Nat.le_mul_of_pos_left _ (Nat.pos_of_ne_zero hnum)
  rw [hden, Nat.log2_two_pow, ofDecimal_of_reach _ hfive (by omega) (by omega)]
  refine (ofRatio_congr_rat _ (decimalRatio_den_pos _ _) d.ratio_den_pos ?_).trans
    (ofRatio_ratio h hzero)
  have hten : (10 : ℚ) ^ k = 5 ^ k * 2 ^ k := by rw [← mul_pow]; norm_num
  rw [decimalRatio_eq, zpow_neg, zpow_natCast, hden, hten]
  push_cast [Nat.pow_eq]
  field_simp

/-- **The shortest decimal of a finite double rounds to that double.** -/
theorem ofDecimal_shortest {d : Double} (h : d.isFinite) :
    ofDecimal d.negative d.shortest.1 d.shortest.2 = d := by
  by_cases hzero : d.isZero
  · rw [shortest, if_pos hzero, ofDecimal_zero]
    simp only [isZero, Bool.and_eq_true, beq_iff_eq] at hzero
    have hbits := d.bits_eq
    rwa [hzero.1, hzero.2] at hbits
  · rw [shortest, if_neg hzero]
    split
    · rename_i r hr
      obtain ⟨n, _, hn⟩ := List.exists_of_findSome?_eq_some hr
      exact decimalOfLength?_readsBack hn
    · exact ofDecimal_exact h hzero

/-- Doubles whose shortest decimals have one sign and one size are the same. -/
lemma eq_of_shortest {c d : Double} (hc : c.isFinite) (hd : d.isFinite)
    (hsign : c.negative = d.negative)
    (hsize : (c.shortest.1 * 10 ^ c.shortest.2 : ℚ) = d.shortest.1 * 10 ^ d.shortest.2) :
    c = d := by
  have hcback := ofDecimal_shortest hc
  have hdback := ofDecimal_shortest hd
  have hpow (p : Int) : (10 : ℚ) ^ p ≠ 0 := zpow_ne_zero p (by norm_num)
  -- Two decimals of one size are both zero or both not, and so are the doubles.
  have hnone : c.shortest.1 = 0 ↔ d.shortest.1 = 0 := by
    constructor <;> intro h <;> simpa [h, hpow] using hsize
  by_cases hzero : c.shortest.1 = 0
  · rw [← hcback, ← hdback, hzero, hnone.mp hzero, hsign, ofDecimal_zero, ofDecimal_zero]
  · have hzero' : ¬ d.shortest.1 = 0 := fun h => hzero (hnone.mpr h)
    have hcne : ¬ c.isZero := fun h => hzero (by rw [shortest, if_pos h])
    have hdne : ¬ d.isZero := fun h => hzero' (by rw [shortest, if_pos h])
    rw [← hcback, ← hdback, ← hsign]
    rw [← hsign] at hdback
    exact ofDecimal_congr hsize (by rwa [hcback]) (by rwa [hcback]) (by rwa [hdback])
      (by rwa [hdback])

end Double

/-! ## Layouts -/

namespace Layout

open Numeral

/-- Dropped zeros can be put back. -/
lemma stripZeros_append (digits : List Char) :
    (stripZeros digits).1 ++ List.replicate (stripZeros digits).2 '0' = digits := by
  have hzeros : digits.reverse.takeWhile (· == '0') =
      List.replicate (digits.reverse.takeWhile (· == '0')).length '0' := by
    refine List.eq_replicate_of_mem fun c hc => ?_
    simpa using List.mem_takeWhile_imp hc
  have hsplit : (stripZeros digits).1 ++ (digits.reverse.takeWhile (· == '0')).reverse = digits := by
    rw [stripZeros, ← List.reverse_append, List.takeWhile_append_dropWhile, List.reverse_reverse]
  have hlength : (stripZeros digits).2 = (digits.reverse.takeWhile (· == '0')).length := by
    have hsum := congrArg List.length hsplit
    simp only [List.length_append, List.length_reverse, stripZeros] at hsum ⊢
    omega
  rw [hlength, ← List.reverse_replicate, ← hzeros, hsplit]

lemma text_of_finite (l : Layout) {d : Double} (h : d.isFinite) :
    l.text d = (if d.negative then ['-'] else []) ++ l.magnitude d := by
  have hbiased : (d.biased == 2047) = false := by simpa [Double.isFinite] using h
  simp [text, h, Double.isUndefined, hbiased]

variable {digits : List Char}

/-- Digits around a point are read as the digits, scaled to that point. -/
lemma magnitude?_positional (negative : Bool) (hdigits : ∀ c ∈ digits, isDigit c)
    (hne : digits ≠ []) (point : Int) :
    ∃ r, magnitude? negative (positional digits point) = some r ∧ r.negative = negative ∧
      r.size = Nat.ofDigitChars 10 digits 0 * 10 ^ (point - digits.length) := by
  have hzeros (k : Nat) : ∀ c ∈ List.replicate k '0', isDigit c := by
    intro c hc
    rw [List.eq_of_mem_replicate hc]
    decide
  have hzero : ∀ c ∈ ['0'], isDigit c := List.forall_mem_singleton.mpr (by decide)
  match point with
  | .negSucc p =>
      have hread := magnitude?_point_end negative hzero
        (List.forall_mem_append.mpr ⟨hzeros (p + 1), hdigits⟩) (by simp)
      refine ⟨_, hread, rfl, ?_⟩
      have hexp : (0 : Int) - (List.replicate (p + 1) '0' ++ digits).length =
          Int.negSucc p - digits.length := by
        simp only [List.length_append, List.length_replicate]
        omega
      simp only [Decimal.size, hexp]
      simp [Nat.ofDigitChars_append, Nat.ofDigitChars_cons]
  | .ofNat 0 =>
      refine ⟨_, magnitude?_point_end negative hzero hdigits (by simp), rfl, ?_⟩
      simp [Decimal.size, Nat.ofDigitChars_cons]
  | .ofNat (p + 1) =>
      rw [positional]
      · by_cases hlong : digits.length ≤ p + 1
        · have hread := magnitude?_point_end negative
            (List.forall_mem_append.mpr ⟨hdigits, hzeros (p + 1 - digits.length)⟩) hzero (by simp)
          refine ⟨_, by simpa [hlong] using hread, rfl, ?_⟩
          have hexp : ((p + 1 : Nat) : Int) - digits.length = (p + 1 - digits.length : Nat) := by
            omega
          simp only [Decimal.size, Nat.ofDigitChars_append, Nat.ofDigitChars_replicate_zero,
            Int.ofNat_eq_natCast, hexp, zpow_natCast]
          simp [Nat.ofDigitChars_cons]
          field_simp
        · have hsplit := List.take_append_drop (p + 1) digits
          have hread := magnitude?_point_end negative
            (fun c hc => hdigits c (List.mem_of_mem_take hc))
            (fun c hc => hdigits c (List.mem_of_mem_drop hc)) (by rwa [hsplit])
          refine ⟨_, by simpa [hlong] using hread, rfl, ?_⟩
          simp only [Decimal.size, Int.ofNat_eq_natCast]
          congr 2
          omega
      · simp

/-- Digits with an exponent are read as the digits, scaled to that exponent. -/
lemma magnitude?_scientific (negative plus : Bool) (hdigits : ∀ c ∈ digits, isDigit c)
    (hne : digits ≠ []) (point : Int) :
    ∃ r, magnitude? negative (scientific plus digits point) = some r ∧ r.negative = negative ∧
      r.size = Nat.ofDigitChars 10 digits 0 * 10 ^ (point - digits.length) := by
  have hexp := exponent?_wholeText (point - 1) plus
  match digits with
  | [] => exact absurd rfl hne
  | [c] =>
      exact ⟨_, magnitude?_exponent negative hdigits hne hexp, rfl, rfl⟩
  | c :: c' :: cs =>
      obtain ⟨hc, hcs⟩ := List.forall_mem_cons.mp hdigits
      have hfirst : ∀ x ∈ [c], isDigit x := by simpa using hc
      have hread := magnitude?_point negative hfirst hcs (by simp)
        (by simp [show isDigit 'e' = false by decide]) hexp
      refine ⟨_, by simpa [scientific] using hread, rfl, ?_⟩
      simp only [Decimal.size, List.length_cons, Nat.cast_add, Nat.cast_one]
      congr 2
      omega

variable {d : Double}

lemma shortest_ne_zero (h : d.isFinite) (hzero : ¬ d.isZero) : d.shortest.1 ≠ 0 := by
  intro hnone
  have hback := Double.ofDecimal_shortest h
  rw [hnone, Double.ofDecimal_zero] at hback
  rw [← hback] at hzero
  exact hzero (by cases d.negative <;> decide)

/-- What `Layout.magnitude` lays out: the digits of the shortest decimal without the zeros at its
end, which scale to its size. -/
lemma stripZeros_shortest (h : d.isFinite) (hzero : ¬ d.isZero) {digits : List Char} {dropped : Nat}
    (hstrip : stripZeros (digitsOf d.shortest.1) = (digits, dropped)) :
    (∀ c ∈ digits, isDigit c) ∧ digits ≠ [] ∧
      (Nat.ofDigitChars 10 digits 0 * 10 ^ (d.shortest.2 + dropped) : ℚ) =
        d.shortest.1 * 10 ^ d.shortest.2 := by
  have happend := stripZeros_append (digitsOf d.shortest.1)
  rw [hstrip] at happend
  have hvalue : 10 ^ dropped * Nat.ofDigitChars 10 digits 0 = d.shortest.1 := by
    rw [← Nat.ofDigitChars_replicate_zero, ← Nat.ofDigitChars_append, happend, digitsOf,
      Nat.ofDigitChars_ten_toDigits]
  refine ⟨fun c hc => isDigit_of_mem_digitsOf (happend ▸ List.mem_append_left _ hc), ?_, ?_⟩
  · rintro rfl
    exact shortest_ne_zero h hzero (by simpa using hvalue.symm)
  · rw [zpow_add₀ (by norm_num), zpow_natCast, ← hvalue]
    push_cast
    ring

/-- The text of a magnitude is read as a decimal of the size of the shortest decimal. -/
lemma magnitude?_magnitude (l : Layout) (negative : Bool) (h : d.isFinite) :
    ∃ r, magnitude? negative (l.magnitude d) = some r ∧ r.negative = negative ∧
      r.size = d.shortest.1 * 10 ^ d.shortest.2 := by
  by_cases hzero : d.isZero
  · rw [magnitude, if_pos hzero, Double.shortest, if_pos hzero]
    exact ⟨⟨negative, 0, -1⟩, rfl, rfl, by simp [Decimal.size]⟩
  · rcases hstrip : stripZeros (digitsOf d.shortest.1) with ⟨digits, dropped⟩
    obtain ⟨hdigits, hne, hsize⟩ := stripZeros_shortest h hzero hstrip
    have hpositional :=
      magnitude?_positional negative hdigits hne (d.shortest.2 + dropped + digits.length)
    have hscientific :=
      magnitude?_scientific negative l.plus hdigits hne (d.shortest.2 + dropped + digits.length)
    rw [add_sub_cancel_right, hsize] at hpositional hscientific
    simp only [magnitude, if_neg hzero, hstrip]
    split
    · exact hpositional
    · exact hscientific

/-- **A text of a finite double is read back** with its sign, as a decimal of the size of the
shortest decimal. -/
theorem decimal?_text (l : Layout) (h : d.isFinite) :
    ∃ r, decimal? (l.text d) = some r ∧ r.negative = d.negative ∧
      r.size = d.shortest.1 * 10 ^ d.shortest.2 := by
  obtain ⟨r, hr, hsign, hsize⟩ := l.magnitude?_magnitude d.negative h
  refine ⟨r, ?_, hsign, hsize⟩
  rw [text_of_finite l h]
  cases hneg : d.negative with
  | true =>
      rw [hneg] at hr
      exact hr
  | false =>
      rw [hneg] at hr
      exact decimal?_of_magnitude? hr

/-- **Different finite doubles have different texts**, in every layout. -/
theorem text_injective (l : Layout) {c d : Double} (hc : c.isFinite) (hd : d.isFinite)
    (h : l.text c = l.text d) : c = d := by
  obtain ⟨r, hr, hrsign, hrsize⟩ := l.decimal?_text hc
  obtain ⟨r', hr', hrsign', hrsize'⟩ := l.decimal?_text hd
  obtain rfl : r = r' := by
    rw [h, hr', Option.some.injEq] at hr
    exact hr.symm
  exact Double.eq_of_shortest hc hd (hrsign.symm.trans hrsign') (hrsize.symm.trans hrsize')

/-! ## The characters of texts -/

/-- The characters that numbers of the data are written with. -/
def isNumeral (c : Char) : Bool := isDigit c || c = '-' || c = '+' || c = '.' || c = 'e'

lemma isNumeral_of_isDigit {c : Char} (h : isDigit c) : isNumeral c := by simp [isNumeral, h]

lemma isNumeral_of_mem_wholeText {n : Int} {c : Char} (h : c ∈ wholeText n) : isNumeral c := by
  rcases mem_wholeText h with h | rfl
  · exact isNumeral_of_isDigit h
  · decide

lemma mem_positional (hdigits : ∀ c ∈ digits, isDigit c) (point : Int) :
    (∀ c ∈ positional digits point, isNumeral c) ∧ '.' ∈ positional digits point := by
  have hzeros (k : Nat) : ∀ c ∈ List.replicate k '0', isNumeral c := by
    intro c hc
    rw [List.eq_of_mem_replicate hc]
    decide
  have hall : ∀ c ∈ digits, isNumeral c := fun c hc => isNumeral_of_isDigit (hdigits c hc)
  have hzero : isNumeral '0' := by decide
  have hdot : isNumeral '.' := by decide
  rw [positional.eq_def]
  split
  · simp only [List.forall_mem_cons, List.forall_mem_append]
    exact ⟨⟨hzero, hdot, hzeros _, hall⟩, by simp⟩
  · simp only [List.forall_mem_cons]
    exact ⟨⟨hzero, hdot, hall⟩, by simp⟩
  · split
    · simp only [List.forall_mem_cons, List.forall_mem_append]
      exact ⟨⟨⟨hall, hzeros _⟩, hdot, hzero, by simp⟩, by simp⟩
    · simp only [List.forall_mem_cons, List.forall_mem_append]
      exact ⟨⟨fun c hc => hall c (List.mem_of_mem_take hc), hdot,
        fun c hc => hall c (List.mem_of_mem_drop hc)⟩, by simp⟩

lemma mem_scientific (plus : Bool) (hdigits : ∀ c ∈ digits, isDigit c) (point : Int) :
    (∀ c ∈ scientific plus digits point, isNumeral c) ∧ 'e' ∈ scientific plus digits point := by
  have hall : ∀ c ∈ digits, isNumeral c := fun c hc => isNumeral_of_isDigit (hdigits c hc)
  have hsign : ∀ c ∈ (if plus && 0 ≤ point - 1 then ['+'] else []), isNumeral c := by
    split
    · simp; decide
    · simp
  simp only [scientific, List.forall_mem_append, List.forall_mem_cons]
  refine ⟨⟨?_, by decide, hsign, fun c => isNumeral_of_mem_wholeText⟩, by simp⟩
  rcases digits with _ | ⟨c, _ | ⟨c', cs⟩⟩
  · simp
  · exact hall
  · obtain ⟨hc, hcs⟩ := List.forall_mem_cons.mp hall
    exact List.forall_mem_cons.mpr ⟨hc, List.forall_mem_cons.mpr ⟨by decide, hcs⟩⟩

/-- A finite double is written with the characters of numbers, a point or an `e` among them. -/
lemma mem_text (l : Layout) (h : d.isFinite) :
    (∀ c ∈ l.text d, isNumeral c) ∧ ('.' ∈ l.text d ∨ 'e' ∈ l.text d) := by
  have hmagnitude : (∀ c ∈ l.magnitude d, isNumeral c) ∧
      ('.' ∈ l.magnitude d ∨ 'e' ∈ l.magnitude d) := by
    by_cases hzero : d.isZero
    · simp [magnitude, hzero, show isNumeral '0' by decide, show isNumeral '.' by decide]
    · rcases hstrip : stripZeros (digitsOf d.shortest.1) with ⟨digits, dropped⟩
      obtain ⟨hdigits, _, _⟩ := stripZeros_shortest h hzero hstrip
      simp only [magnitude, if_neg hzero, hstrip]
      split
      · exact (mem_positional hdigits _).imp_right .inl
      · exact (mem_scientific l.plus hdigits _).imp_right .inr
  rw [text_of_finite l h]
  refine ⟨List.forall_mem_append.mpr ⟨?_, hmagnitude.1⟩, hmagnitude.2.imp ?_ ?_⟩
  · cases d.negative <;> simp [show isNumeral '-' by decide]
  · exact List.mem_append_right _
  · exact List.mem_append_right _

end Layout

/-! ## Numbers of the data -/

namespace Number

/-- Whether a number is one that data can hold: an infinity or an undefined value is none. -/
def isFinite : Number → Bool
  | whole _ => true
  | double d => d.isFinite

/-- A number is written with the characters of numbers. -/
lemma isNumeral_of_mem_chars {n : Number} (h : n.isFinite) {c : Char} (hc : c ∈ n.chars) :
    Layout.isNumeral c := by
  cases n with
  | whole n => exact Layout.isNumeral_of_mem_wholeText hc
  | double d => exact (Layout.mem_text .data h).1 c hc

lemma chars_ne_nil {n : Number} (h : n.isFinite) : n.chars ≠ [] := by
  cases n with
  | whole n => exact Numeral.wholeText_ne_nil n
  | double d =>
      rcases (Layout.mem_text .data h).2 with hmem | hmem <;> exact List.ne_nil_of_mem hmem

/-- A whole number and a double are told apart by the point or the `e`. -/
lemma wholeText_ne_text (n : Int) {d : Double} (h : d.isFinite) :
    Numeral.wholeText n ≠ Layout.data.text d := by
  intro heq
  rcases (Layout.mem_text .data h).2 with hmem | hmem <;>
    rw [← heq] at hmem <;>
    rcases Numeral.mem_wholeText hmem with hdigit | hminus
  · exact absurd hdigit (by decide)
  · exact absurd hminus (by decide)
  · exact absurd hdigit (by decide)
  · exact absurd hminus (by decide)

/-- **Different numbers have different texts.** -/
theorem chars_injective {n m : Number} (hn : n.isFinite) (hm : m.isFinite)
    (h : n.chars = m.chars) : n = m := by
  cases n with
  | whole n =>
      cases m with
      | whole m => rw [Numeral.wholeText_injective h]
      | double d => exact absurd h (wholeText_ne_text n hm)
  | double c =>
      cases m with
      | whole m => exact absurd h.symm (wholeText_ne_text m hn)
      | double d => rw [Layout.text_injective .data hn hm h]

end Number

end Docket
