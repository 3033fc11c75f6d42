import Docket.Number.Numeral
import Mathlib.Algebra.Order.Field.Basic
import Mathlib.Data.List.Basic
import Mathlib.Data.List.Induction
import Mathlib.Data.List.TakeWhile
import Mathlib.Data.Rat.Cast.Defs
import Mathlib.Tactic.Lemma

/-!
# Reading numerals back

A whole number is read back from its digits (`unsigned?_digitsOf`, `signed?_wholeText`), and so is
an exponent from its sign and digits.  `magnitude?_point` and `magnitude?_exponent` say which
decimal a run of digits with a point or with an exponent is read as, and `magnitude?_digits` which
one a run of digits alone.

`Decimal.size` is the rational number that a decimal stands for, whatever its digits are.
-/

namespace Docket.Numeral

/-! ## Runs of digits -/

lemma digit?_ten {c : Char} (h : isDigit c) : digit? 10 c = some (c.toNat - '0'.toNat) := by
  have hupper : c.toNat ≤ 57 := by
    simp only [isDigit, Bool.and_eq_true, decide_eq_true_eq] at h
    exact h.2
  have hlt : c.toNat - 48 < 10 := by omega
  simp [digit?, h, hlt]

lemma valueFrom_digits {cs : List Char} (h : ∀ c ∈ cs, isDigit c) (acc : Nat) :
    valueFrom 10 acc cs = some (Nat.ofDigitChars 10 cs acc) := by
  induction cs generalizing acc with
  | nil => simp [valueFrom]
  | cons c cs ih =>
      obtain ⟨hc, hcs⟩ := List.forall_mem_cons.mp h
      rw [valueFrom, digit?_ten hc, Option.bind_some, ih hcs, Nat.ofDigitChars_cons, Nat.mul_comm]

/-- A run of digits does not make the number before it smaller. -/
lemma le_valueFrom {base acc n : Nat} {cs : List Char} (hbase : 0 < base)
    (h : valueFrom base acc cs = some n) : acc ≤ n := by
  induction cs generalizing acc with
  | nil => exact (Option.some.inj h).le
  | cons c cs ih =>
      obtain ⟨v, -, hv⟩ := Option.bind_eq_some_iff.mp h
      have hacc := ih hv
      have hmul : acc ≤ acc * base := Nat.le_mul_of_pos_right acc hbase
      omega

lemma valueOf_digits {cs : List Char} (h : ∀ c ∈ cs, isDigit c) (hne : cs ≠ []) :
    valueOf 10 cs = some (Nat.ofDigitChars 10 cs 0) := by
  cases cs with
  | nil => exact absurd rfl hne
  | cons c cs => exact valueFrom_digits h 0

lemma isDigit_of_mem_digitsOf {n : Nat} {c : Char} (h : c ∈ digitsOf n) : isDigit c :=
  Nat.isDigit_of_mem_toDigits (by decide) (by decide) h

lemma digitsOf_ne_nil (n : Nat) : digitsOf n ≠ [] := Nat.toDigits_ne_nil

/-- The digits of a number are read back as that number. -/
lemma valueOf_digitsOf (n : Nat) : valueOf 10 (digitsOf n) = some n := by
  rw [valueOf_digits (fun _ => isDigit_of_mem_digitsOf) (digitsOf_ne_nil n), digitsOf,
    Nat.ofDigitChars_ten_toDigits]

lemma digitsOf_injective {n m : Nat} (h : digitsOf n = digitsOf m) : n = m := by
  have hread := congrArg (valueOf 10) h
  rwa [valueOf_digitsOf, valueOf_digitsOf, Option.some.injEq] at hread

/-- A run of digits starts with a digit. -/
lemma digitsOf_eq_cons (n : Nat) : ∃ c cs, digitsOf n = c :: cs ∧ isDigit c := by
  obtain ⟨c, cs, heq⟩ := List.exists_cons_of_ne_nil (digitsOf_ne_nil n)
  exact ⟨c, cs, heq, isDigit_of_mem_digitsOf (heq ▸ List.mem_cons_self)⟩

/-- The digits of a number do not start with a sign. -/
lemma digitsOf_ne_cons {c : Char} (hc : isDigit c = false) (n : Nat) (cs : List Char) :
    digitsOf n ≠ c :: cs := by
  intro heq
  have hdigit : isDigit c := isDigit_of_mem_digitsOf (heq ▸ List.mem_cons_self)
  simp [hc] at hdigit

/-- Only zero is written with a leading zero. -/
lemma head?_digitsOf {n : Nat} (h : 0 < n) : (digitsOf n).head? ≠ some '0' := by
  induction n using Nat.strong_induction_on with
  | _ n ih =>
      rw [digitsOf, Nat.toDigits_eq_if (by decide)]
      split
      · rename_i hlt
        have hall : ∀ d < 10, 0 < d → [Nat.digitChar d].head? ≠ some '0' := by decide
        exact hall n hlt h
      · have hhead : (digitsOf (n / 10)).head? ≠ some '0' := ih (n / 10) (by omega) (by omega)
        rwa [← digitsOf, List.head?_append_of_ne_nil _ (digitsOf_ne_nil _)]

/-- **Different whole numbers have different texts.** -/
theorem wholeText_injective {n m : Int} (h : wholeText n = wholeText m) : n = m := by
  have hminus (k : Nat) (cs : List Char) : digitsOf k ≠ '-' :: cs :=
    digitsOf_ne_cons (by decide) k cs
  cases n with
  | ofNat n =>
      cases m with
      | ofNat m => rw [digitsOf_injective h]
      | negSucc m => exact absurd h (hminus n _)
  | negSucc n =>
      cases m with
      | ofNat m => exact absurd h.symm (hminus m _)
      | negSucc m =>
          have hdigits : digitsOf (n + 1) = digitsOf (m + 1) := by
            simpa [wholeText] using h
          rw [Nat.succ.inj (digitsOf_injective hdigits)]

lemma wholeText_ne_nil (n : Int) : wholeText n ≠ [] := by
  cases n with
  | ofNat n => exact digitsOf_ne_nil n
  | negSucc n => exact List.cons_ne_nil _ _

/-- The characters of whole numbers. -/
lemma mem_wholeText {n : Int} {c : Char} (h : c ∈ wholeText n) : isDigit c ∨ c = '-' := by
  cases n with
  | ofNat n => exact .inl (isDigit_of_mem_digitsOf h)
  | negSucc n =>
      rcases List.mem_cons.mp h with rfl | h
      · exact .inr rfl
      · exact .inl (isDigit_of_mem_digitsOf h)

/-! ## Bounded whole numbers -/

lemma below?_digitsOf (n bound : Nat) :
    below? 10 bound (digitsOf n) = if n < bound then some n else none := by
  unfold below?
  split
  · rename_i rest hplus
    exact absurd hplus (digitsOf_ne_cons (by decide) n rest)
  · simp only [valueOf_digitsOf, Option.bind_some]

lemma within?_digitsOf (n bound : Nat) :
    within? 10 bound (digitsOf n) = if n < bound then some (n : Int) else none := by
  unfold within?
  split
  · rename_i rest hminus
    exact absurd hminus (digitsOf_ne_cons (by decide) n rest)
  · rw [below?_digitsOf]
    split <;> rfl

/-- A number in the unsigned 64-bit range is read back from its digits. -/
lemma unsigned?_digitsOf {n : Nat} (h : n < unsignedBound) : unsigned? (digitsOf n) = some n := by
  rw [unsigned?, below?_digitsOf, if_pos h]

/-- A run of digits without leading zeros is that of the number it is read as. -/
lemma digitsOf_ofDigitChars {cs : List Char} (h : ∀ c ∈ cs, isDigit c) (hne : cs ≠ [])
    (hlead : cs = ['0'] ∨ cs.head? ≠ some '0') : digitsOf (Nat.ofDigitChars 10 cs 0) = cs := by
  induction cs using List.reverseRecOn with
  | nil => exact absurd rfl hne
  | append_singleton front c ih =>
      obtain ⟨hfront, hc⟩ := List.forall_mem_append.mp h
      obtain ⟨d, hd, rfl⟩ : ∃ d < 10, c = Nat.digitChar d := by
        have hdigit := hc c List.mem_cons_self
        simp only [isDigit, Bool.and_eq_true, decide_eq_true_eq, Char.le_def] at hdigit
        have hall : ∀ n ∈ List.range' 48 10, ∃ d < 10, Char.ofNat n = Nat.digitChar d := by decide
        rw [← Char.ofNat_toNat c]
        exact hall _ (List.mem_range'_1.mpr ⟨hdigit.1, Nat.lt_succ_of_le hdigit.2⟩)
      rw [Nat.ofDigitChars_append, Nat.ofDigitChars_cons_digitChar_of_lt_ten hd,
        Nat.ofDigitChars_nil]
      cases front with
      | nil => simp [digitsOf, Nat.toDigits_of_lt_base hd]
      | cons c' front =>
          have hhead : (c' :: front).head? ≠ some '0' := by
            rcases hlead with heq | hhead
            · simp at heq
            · exact hhead
          have hih := ih hfront (List.cons_ne_nil _ _) (.inr hhead)
          -- the digits before the last one are not those of zero
          have hpos : 0 < Nat.ofDigitChars 10 (c' :: front) 0 := by
            refine Nat.pos_of_ne_zero fun hzero => hhead ?_
            rw [← hih, hzero]
            rfl
          rw [digitsOf, ← Nat.toDigits_append_toDigits (by decide) hpos hd,
            Nat.toDigits_of_lt_base hd]
          exact congrArg (· ++ [Nat.digitChar d]) hih

/-- A run of digits without leading zeros is read as the number it belongs to. -/
lemma digitsOf_of_unsigned? {cs : List Char} {n : Nat} (h : ∀ c ∈ cs, isDigit c)
    (hlead : cs = ['0'] ∨ cs.head? ≠ some '0') (hread : unsigned? cs = some n) :
    digitsOf n = cs := by
  have hsign (rest : List Char) : cs ≠ '+' :: rest := by
    rintro rfl
    exact absurd (h '+' List.mem_cons_self) (by decide)
  have hne : cs ≠ [] := by
    rintro rfl
    simp [unsigned?, below?, valueOf] at hread
  obtain ⟨m, hm, hbound⟩ := Option.bind_eq_some_iff.mp hread
  have hvalue : valueOf 10 cs = some m := by
    split at hm
    · exact absurd rfl (hsign _)
    · exact hm
  rw [valueOf_digits h hne, Option.some.injEq] at hvalue
  split at hbound
  · cases hbound
    rw [← hvalue, digitsOf_ofDigitChars h hne hlead]
  · cases hbound

/-- A numeral is read only if its number is in the unsigned 64-bit range. -/
lemma unsigned?_lt {cs : List Char} {n : Nat} (h : unsigned? cs = some n) : n < unsignedBound := by
  obtain ⟨m, -, hm⟩ := Option.bind_eq_some_iff.mp h
  grind

/-- A whole number in the signed 64-bit range is read back from its text. -/
lemma signed?_wholeText {n : Int} (hlower : -signedBound ≤ n) (hupper : n < signedBound) :
    signed? (wholeText n) = some n := by
  cases n with
  | ofNat n =>
      rw [wholeText, signed?, within?_digitsOf, if_pos (Int.ofNat_lt.mp hupper)]
      rfl
  | negSucc n =>
      have hbound : n + 1 ≤ signedBound := by omega
      simp [wholeText, signed?, within?, valueOf_digitsOf, hbound, Int.negSucc_eq]

/-- The digits of a number above the signed 64-bit range are not read as a signed number. -/
lemma signed?_digitsOf_eq_none {n : Nat} (h : signedBound ≤ n) : signed? (digitsOf n) = none := by
  rw [signed?, within?_digitsOf, if_neg (Nat.not_lt.mpr h)]

/-! ## Reading decimals -/

/-- The rational number that a decimal without its sign stands for. -/
def Decimal.size (d : Decimal) : ℚ := d.digits * 10 ^ d.power

/-- A whole number behind an `e`, a positive one with or without its sign, is an exponent. -/
lemma exponent?_wholeText (e : Int) (plus : Bool) :
    exponent? ('e' :: ((if plus && 0 ≤ e then ['+'] else []) ++ wholeText e)) = some e := by
  cases e with
  | negSucc e =>
      have hsign : (plus && decide (0 ≤ Int.negSucc e)) = false := by simp
      rw [hsign, if_neg Bool.false_ne_true, List.nil_append, wholeText]
      simp [exponent?, valueOf_digitsOf, Int.negSucc_eq]
  | ofNat e =>
      obtain ⟨c, cs, heq, hc⟩ := digitsOf_eq_cons e
      have hread := valueOf_digitsOf e
      rw [heq] at hread
      cases plus with
      | true => simp [exponent?, wholeText, valueOf_digitsOf]
      | false =>
          have hminus : c ≠ '-' := by rintro rfl; exact absurd hc (by decide)
          have hplus : c ≠ '+' := by rintro rfl; exact absurd hc (by decide)
          simp [exponent?, wholeText, heq, hread, hminus, hplus]

variable {before after tail : List Char} {power : Int}

/-- Reading a decimal with a point. -/
lemma magnitude?_point (negative : Bool) (hbefore : ∀ c ∈ before, isDigit c)
    (hafter : ∀ c ∈ after, isDigit c) (hne : before ++ after ≠ [])
    (hstop : tail.takeWhile isDigit = []) (htail : exponent? tail = some power) :
    magnitude? negative (before ++ '.' :: (after ++ tail)) =
      some ⟨negative, Nat.ofDigitChars 10 (before ++ after) 0, power - after.length⟩ := by
  have hrest : tail.dropWhile isDigit = tail := by
    have hsplit := List.takeWhile_append_dropWhile (p := isDigit) (l := tail)
    rwa [hstop] at hsplit
  have hpoint : isDigit '.' = false := by decide
  have hdigits : ∀ c ∈ before ++ after, isDigit c := List.forall_mem_append.mpr ⟨hbefore, hafter⟩
  simp [magnitude?, List.takeWhile_append_of_pos hbefore, List.dropWhile_append_of_pos hbefore,
    List.takeWhile_append_of_pos hafter, List.dropWhile_append_of_pos hafter, hpoint, hstop, hrest,
    valueOf_digits hdigits hne, htail]

lemma magnitude?_point_end (negative : Bool) (hbefore : ∀ c ∈ before, isDigit c)
    (hafter : ∀ c ∈ after, isDigit c) (hne : before ++ after ≠ []) :
    magnitude? negative (before ++ '.' :: after) =
      some ⟨negative, Nat.ofDigitChars 10 (before ++ after) 0, 0 - after.length⟩ := by
  have hread := magnitude?_point negative hbefore hafter hne List.takeWhile_nil rfl
  rwa [List.append_nil] at hread

/-- Reading a decimal without a point. -/
lemma magnitude?_exponent (negative : Bool) (hbefore : ∀ c ∈ before, isDigit c)
    (hne : before ≠ []) (htail : exponent? ('e' :: tail) = some power) :
    magnitude? negative (before ++ 'e' :: tail) =
      some ⟨negative, Nat.ofDigitChars 10 before 0, power⟩ := by
  have hmark : isDigit 'e' = false := by decide
  simp [magnitude?, List.takeWhile_append_of_pos hbefore, List.dropWhile_append_of_pos hbefore,
    hmark, valueOf_digits hbefore hne, htail]

/-- Reading digits alone. -/
lemma magnitude?_digits (negative : Bool) {cs : List Char} (h : ∀ c ∈ cs, isDigit c)
    (hne : cs ≠ []) : magnitude? negative cs = some ⟨negative, Nat.ofDigitChars 10 cs 0, 0⟩ := by
  simp [magnitude?, List.takeWhile_eq_self_iff.mpr h, List.dropWhile_eq_nil_iff.mpr h,
    valueOf_digits h hne, exponent?]

/-- What is read without a sign starts with none, so it is read as it stands. -/
lemma decimal?_of_magnitude? {cs : List Char} {r : Decimal} (h : magnitude? false cs = some r) :
    decimal? cs = some r := by
  rw [decimal?.eq_def]
  split
  · simp [magnitude?, show isDigit '-' = false by decide, valueOf] at h
  · simp [magnitude?, show isDigit '+' = false by decide, valueOf] at h
  · exact h

/-- The digits of a number are read as a decimal without a power of ten. -/
lemma decimal?_digitsOf (n : Nat) : decimal? (digitsOf n) = some ⟨false, n, 0⟩ := by
  refine decimal?_of_magnitude? ?_
  rw [magnitude?_digits false (fun _ => isDigit_of_mem_digitsOf) (digitsOf_ne_nil n), digitsOf,
    Nat.ofDigitChars_ten_toDigits]

end Docket.Numeral
