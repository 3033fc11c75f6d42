import Docket.Proofs.Number.Text
import Docket.Proofs.Rendering.Separators
import Docket.Value.Read

/-!
# Whole numbers in bodies and in data

The data holds every whole number of the signed and of the unsigned 64-bit range as it is
(`readNumber_wholeText`), and a reference shows it in its digits.  The same digits can stand in a
body, as the argument of `default` (`defaultBody`).  There they are read in the signed range only
(`readArgument_wholeText`); above it they become a double, which is not shown in the same digits
(`readArgument_digitsOf_of_le`).

So a default is shown like the number of the data exactly in the signed range
(`renderBody_default_digits`); `renderBody_default_rounded` is the first number above it.
-/

namespace Docket

/-! ## Digits in the data -/

namespace Value.Reader

open Numeral

/-- Digits are gathered to the end if their number fits 64 bits. -/
lemma gather_of_lt {cs : List Char} {acc n : Nat} (h : ∀ c ∈ cs, isDigit c)
    (hvalue : valueFrom 10 acc cs = some n) (hn : n < unsignedBound) :
    gather acc cs = (n, cs.length, []) := by
  induction cs generalizing acc with
  | nil =>
      cases hvalue
      rfl
  | cons c cs ih =>
      obtain ⟨hc, hcs⟩ := List.forall_mem_cons.mp h
      rw [valueFrom, digit?_ten hc, Option.bind_some] at hvalue
      have hnext := (le_valueFrom (by decide) hvalue).trans_lt hn
      simp only [gather, hc, if_true, if_pos hnext, ih hcs hvalue, List.length_cons]

lemma readMagnitude_digitsOf (negative : Bool) {n : Nat} (hn : n < unsignedBound) :
    readMagnitude negative (digitsOf n) =
      some (if !negative then .whole n
        else if n = 0 || n > signedBound then .double (Double.ofNat n).neg
        else .whole (-(n : Int)), []) := by
  obtain ⟨c, cs, heq, hc⟩ := digitsOf_eq_cons n
  have hdigits : ∀ c ∈ digitsOf n, isDigit c := fun _ => isDigit_of_mem_digitsOf
  have hvalue := valueOf_digitsOf n
  have hlead : ¬ (c = '0' && (cs.takeWhile isDigit).length ≠ 0) := by
    rcases Nat.eq_zero_or_pos n with rfl | hpos
    · obtain ⟨-, rfl⟩ := List.cons_eq_cons.mp (heq.symm.trans (show digitsOf 0 = ['0'] from rfl))
      simp
    · have hhead := head?_digitsOf hpos
      rw [heq, List.head?_cons] at hhead
      have hc : c ≠ '0' := fun h => hhead (congrArg some h)
      simp [hc]
  rw [heq] at hdigits hvalue ⊢
  simp only [readMagnitude, hc, if_true, if_neg hlead, gather_of_lt hdigits hvalue hn,
    List.takeWhile_nil, List.dropWhile_nil, List.isEmpty_nil]
  cases negative
  · rfl
  · simp only [Bool.not_true, Bool.false_eq_true, if_false, Bool.or_self]
    split <;> rfl

/-- **The data holds every whole number of the two 64-bit ranges**: its digits are read as it is. -/
lemma readNumber_wholeText {n : Int} (hlower : -signedBound ≤ n) (hupper : n < unsignedBound) :
    readNumber (wholeText n) = some (.whole n, []) := by
  cases n with
  | ofNat n =>
      have hread := readMagnitude_digitsOf false (Int.ofNat_lt.mp hupper)
      rw [wholeText]
      unfold readNumber
      split
      · rename_i rest hminus
        exact absurd hminus (digitsOf_ne_cons (by decide) n rest)
      · exact hread
  | negSucc n =>
      have hsigned : n + 1 ≤ signedBound := by omega
      have hbound : signedBound < unsignedBound := by decide
      have hwhole : ¬ (n + 1 = 0 || n + 1 > signedBound) := by simp [Nat.not_lt.mpr hsigned]
      rw [wholeText, readNumber, readMagnitude_digitsOf true (Nat.lt_of_le_of_lt hsigned hbound),
        if_neg (by decide), if_neg hwhole, Int.negSucc_eq, Int.natCast_add_one]

end Value.Reader

namespace Template

open Numeral Rendering

/-! ## Digits in a body -/

/-- The double nearest to a number of the unsigned 64-bit range is finite. -/
lemma isFinite_ofNat_of_lt {n : Nat} (h : n < unsignedBound) : (Double.ofNat n).isFinite :=
  Double.isFinite_ofNat (k := 64) h (by decide)

/-- **Above the signed range the digits of a number are read as a double.** -/
lemma readArgument_digitsOf_of_le {n : Nat} (hlower : signedBound ≤ n) (hupper : n < unsignedBound) :
    readArgument (digitsOf n) = .number (.double (Double.ofNat n)) := by
  have hdouble : double? (digitsOf n) = some (Double.ofNat n) := by
    simp [double?, decimal?_digitsOf, Double.ofDecimal_whole, isFinite_ofNat_of_lt hupper]
  have hread := readArgument_wholeText n
  simp only [wholeText, signed?_digitsOf_eq_none hlower, hdouble] at hread
  exact hread

/-! ## A filter with one word -/

/-- A filter with one word between its parentheses. -/
def wordCall (filter : Filter) (argument : List Char) : List Char :=
  filter.name.toList ++ '(' :: (argument ++ [')'])

lemma trimmed_wordCall (filter : Filter) (argument : List Char) :
    Text.Trimmed (wordCall filter argument) := by
  have hname := word_name filter
  have hclosed : Text.Trimmed [')'] := Text.trimmed_of_all (by decide)
  simpa [wordCall] using hname.trimmed.append hname.1 hclosed (by simp) ('(' :: argument)

lemma part_wordCall (filter : Filter) {argument : List Char} (h : Word argument) :
    Part (wordCall filter argument) := by
  have hopened : Part ['('] := ⟨rfl, enclosable_of_not_mem (by decide)⟩
  have hclosed : Part [')'] := ⟨rfl, enclosable_of_not_mem (by decide)⟩
  exact (word_name filter).part.append (hopened.append (h.part.append hclosed))

/-- The word is the only argument. -/
lemma readFilter_wordCall {filter : Filter} (haccepted : filter.accepts 1) {argument : List Char}
    (h : Word argument) (expression : List Char) :
    readFilter expression (' ' :: wordCall filter argument) =
      .ok ⟨filter, [readArgument argument]⟩ := by
  have htrim : Text.trim ([' '] ++ wordCall filter argument) = wordCall filter argument := by
    rw [Text.trim_append_left isBlank_of_mem_blank,
      Text.trim_of_trimmed (trimmed_wordCall filter argument)]
  have hcomma : Sealed ',' argument := h.isSealed (by decide)
  have hcall : splitCall? (wordCall filter argument) =
      some (filter.name.toList, [readArgument argument]) := by
    rw [wordCall, splitCall?_parentheses, Text.trim_of_trimmed h.trimmed,
      splitOutsideQuotes_of_sealed hcomma, if_neg (by simpa using h.1)]
    rfl
  exact readFilter_of_splitCall? (htrim.symm ▸ hcall) haccepted expression

/-! ## Two bodies -/

/-- A reference without filters. -/
def referenceBody (raw : String) : String := "\x7b\x7b " ++ raw ++ " \x7d\x7d"

/-- A reference with a default that is not quoted. -/
def defaultBody (raw : String) (argument : List Char) : String :=
  "\x7b\x7b " ++ raw ++ " | default(" ++ String.ofList argument ++ ") \x7d\x7d"

/-- A body that is one expression between blanks is read as that expression. -/
lemma parse_spaced {inner : List Char} {e : Expression} (hinner : Enclosable inner)
    (hspells : Tag.Spells (Text.trim inner) (.expression e)) :
    parse (String.ofList (openingBraces ++ ([' '] ++ inner ++ [' ']) ++ closingBraces)) =
      .ok [.expr e] := by
  have hblank : Enclosable [' '] := enclosable_of_not_mem (by decide)
  have htrim : Text.trim ([' '] ++ inner ++ [' ']) = Text.trim inner := by
    rw [Text.trim_append_blanks isBlank_of_mem_blank, Text.trim_append_left isBlank_of_mem_blank]
  have hreads := Reads.cons_tag ((hblank.append hinner).append hblank) (htrim ▸ hspells) reads_nil
  rw [List.append_nil] at hreads
  exact parse_eq_ok_iff_derives.mpr ⟨_, hreads, .expression .nil⟩

section

variable {raw : String} {p : Path} (hparse : Path.parse raw = .ok p)

include hparse

lemma parse_referenceBody (hname : Text.trim raw.toList ≠ elseKeyword) :
    parse (referenceBody raw) = .ok [.expr ⟨p, []⟩] := by
  have hpath : Path.parse (String.ofList (Text.trim raw.toList)) = .ok p :=
    parse_of_trim_eq hparse (Text.trim_trim _)
  have hsealed : Sealed '|' (Text.trim raw.toList) := by simpa using isSealed_of_parse hpath
  have hread : readExpression (Text.trim raw.toList) = .ok ⟨p, []⟩ := by
    simp only [readExpression, splitOutsideQuotes_of_sealed hsealed, hpath, readFilters]
  have hbody : referenceBody raw =
      String.ofList (openingBraces ++ ([' '] ++ raw.toList ++ [' ']) ++ closingBraces) := by
    rw [← String.toList_inj, String.toList_ofList]
    simp [referenceBody, openingBraces, closingBraces]
  rw [hbody]
  exact parse_spaced (enclosable_of_parse hparse) (.expression hname hread)

/-- **A word as a default is read as an argument.** -/
lemma parse_defaultBody {argument : List Char} (hargument : Word argument) :
    parse (defaultBody raw argument) =
      .ok [.expr ⟨p, [⟨.default, [readArgument argument]⟩]⟩] := by
  have hcall := part_wordCall .default hargument
  have hspells := spells_reference_filter hparse (trimmed_wordCall .default argument)
    (by simp [wordCall]) hcall.isSealed (readFilter_wordCall (by decide) hargument)
  have hbody : defaultBody raw argument = String.ofList (openingBraces ++
      ([' '] ++ (raw.toList ++ ' ' :: '|' :: ' ' :: wordCall .default argument) ++ [' ']) ++
        closingBraces) := by
    rw [← String.toList_inj, String.toList_ofList]
    simp [defaultBody, wordCall, openingBraces, closingBraces, Filter.name]
  rw [hbody]
  exact parse_spaced (enclosable_bar hparse hcall.enclosable) hspells

end

/-! ## Rendering the two bodies -/

/-- A reference without filters shows the value as it is. -/
lemma renderNodes_reference {b : Bindings} {p : Path} {v : Value} (h : resolve b [] p = some v) :
    renderNodes b [] [.expr ⟨p, []⟩] = done v.display.toList := by
  simp only [renderNodes, renderNode, renderExpression, h, filtered, applyFilters, Except.map,
    done_andThen, List.append_nil]
  exact andThen_done _

/-- A default is shown where there is no value. -/
lemma renderNodes_default {b : Bindings} {p : Path} (h : resolve b [] p = none) (fallback : Value) :
    renderNodes b [] [.expr ⟨p, [⟨.default, [fallback]⟩]⟩] = done fallback.display.toList := by
  have hdefault : applyFilters p.display [⟨.default, [fallback]⟩] .null = .ok fallback := rfl
  have haccepts : Expression.acceptsAbsence ⟨p, [⟨.default, [fallback]⟩]⟩ := rfl
  simp only [renderNodes, renderNode, renderExpression, h, haccepts, if_true, filtered, hdefault,
    Except.map, done_andThen, List.append_nil]
  exact andThen_done _

/-- What is shown for the digits of a number as a default: the digits, or the nearest double. -/
def shownDefault (n : Int) : List Char :=
  if n < signedBound then wholeText n else Layout.data.text (Double.ofNat n.toNat)

lemma display_readArgument_wholeText {n : Int} (hlower : -signedBound ≤ n)
    (hupper : n < unsignedBound) :
    (readArgument (wholeText n)).display = String.ofList (shownDefault n) := by
  unfold shownDefault
  split
  · rename_i hsigned
    rw [readArgument_wholeText, signed?_wholeText hlower hsigned]
    rfl
  · rename_i hsigned
    obtain ⟨m, rfl⟩ : ∃ m : Nat, n = m := Int.eq_ofNat_of_zero_le (by omega)
    have hread := readArgument_digitsOf_of_le (Int.ofNat_le.mp (Int.not_lt.mp hsigned))
      (Int.ofNat_lt.mp hupper)
    exact congrArg Value.display hread

/-- The double is not shown in the digits of the number. -/
lemma shownDefault_eq_iff {n : Int} (hupper : n < unsignedBound) :
    shownDefault n = wholeText n ↔ n < signedBound := by
  refine ⟨fun heq => ?_, fun h => if_pos h⟩
  by_contra hsigned
  rw [shownDefault, if_neg hsigned] at heq
  exact Number.wholeText_ne_text n (isFinite_ofNat_of_lt (by omega)) heq.symm

/-- **A whole number means the same in a body as in the data exactly in the signed range.**  For
every whole number of the two 64-bit ranges, which the data holds as it is, and every path but the
bare word `else`: where the path leads to the number, a reference shows its digits.  Where the path
leads nowhere, the digits as a default are shown as they are in the signed range, and above it as a
double, which is another text. -/
theorem renderBody_default_digits {b b' : Bindings} {raw : String} {p : Path} {n : Int}
    (hparse : Path.parse raw = .ok p) (hname : Text.trim raw.toList ≠ elseKeyword)
    (hmissing : resolve b [] p = none) (hheld : resolve b' [] p = some (.number (.whole n)))
    (hlower : -signedBound ≤ n) (hupper : n < unsignedBound) (ws : List String) :
    Value.Reader.readNumber (wholeText n) = some (.whole n, []) ∧
      renderBody b' (referenceBody raw) ws = ⟨.ok (String.ofList (wholeText n)), ws⟩ ∧
      renderBody b (defaultBody raw (wholeText n)) ws =
        ⟨.ok (String.ofList (shownDefault n)), ws⟩ ∧
      (renderBody b (defaultBody raw (wholeText n)) ws = renderBody b' (referenceBody raw) ws ↔
        n < signedBound) := by
  have hreference : renderBody b' (referenceBody raw) ws =
      ⟨.ok (String.ofList (wholeText n)), ws⟩ := by
    rw [renderBody_of_parse b' (parse_referenceBody hparse hname), renderNodes_reference hheld,
      done_andThen, String.ofList_toList]
    rfl
  have hdefault : renderBody b (defaultBody raw (wholeText n)) ws =
      ⟨.ok (String.ofList (shownDefault n)), ws⟩ := by
    rw [renderBody_of_parse b (parse_defaultBody hparse (word_wholeText n)),
      renderNodes_default hmissing, done_andThen, display_readArgument_wholeText hlower hupper,
      String.ofList_toList]
    rfl
  refine ⟨Value.Reader.readNumber_wholeText hlower hupper, hreference, hdefault, ?_⟩
  rw [hreference, hdefault, ← shownDefault_eq_iff hupper]
  simp [String.ofList_inj]

/-- The smallest number of the signed range, at a path with an index, in strict mode. -/
theorem renderBody_default_digits_least :
    let raw := " rows[+0].id "
    let p : Path := ⟨.root, [.key "rows", .index 0, .key "id"]⟩
    let n : Int := -9223372036854775808
    let missing := Bindings.bind (.map [("rows", .list [])]) [] .strict
    let held := Bindings.bind (.map [("rows", .list [.map [("id", .number (.whole n))]])]) [] .strict
    Path.parse raw = .ok p ∧ Text.trim raw.toList ≠ elseKeyword ∧ resolve missing [] p = none ∧
      resolve held [] p = some (.number (.whole n)) ∧ -signedBound ≤ n ∧ n < unsignedBound ∧
      Value.Reader.readNumber (wholeText n) = some (.whole n, []) ∧
      renderBody held (referenceBody raw) [] = ⟨.ok (String.ofList (wholeText n)), []⟩ ∧
      renderBody missing (defaultBody raw (wholeText n)) [] =
        ⟨.ok (String.ofList (shownDefault n)), []⟩ ∧
      (renderBody missing (defaultBody raw (wholeText n)) [] =
        renderBody held (referenceBody raw) [] ↔ n < signedBound) := by
  intro raw p n missing held
  have hparse : Path.parse raw = .ok p := Path.parse_eq_ok_iff.mpr (by decide +kernel)
  have hname : Text.trim raw.toList ≠ elseKeyword := by decide
  have hmissing : resolve missing [] p = none := rfl
  have hheld : resolve held [] p = some (.number (.whole n)) := rfl
  have hlower : -signedBound ≤ n := by decide
  have hupper : n < unsignedBound := by decide
  exact ⟨hparse, hname, hmissing, hheld, hlower, hupper,
    renderBody_default_digits hparse hname hmissing hheld hlower hupper []⟩

/-- The first number above the signed range is rounded. -/
theorem renderBody_default_rounded :
    let n : Int := 9223372036854775808
    let missing := Bindings.bind (.map []) [] .lenient
    let held := Bindings.bind (.map [("x", .number (.whole n))]) [] .lenient
    Value.Reader.readNumber (wholeText n) = some (.whole n, []) ∧
      referenceBody "x" = "\x7b\x7b x \x7d\x7d" ∧
      renderBody held (referenceBody "x") [] = ⟨.ok "9223372036854775808", []⟩ ∧
      defaultBody "x" (wholeText n) = "\x7b\x7b x | default(9223372036854775808) \x7d\x7d" ∧
      renderBody missing (defaultBody "x" (wholeText n)) [] =
        ⟨.ok "9.223372036854776e+18", []⟩ := by
  intro n missing held
  have hparse : Path.parse "x" = .ok ⟨.root, [.key "x"]⟩ :=
    Path.parse_eq_ok_iff.mpr (by decide +kernel)
  have hreference := parse_referenceBody hparse (by decide)
  have hdefault := parse_defaultBody hparse (word_wholeText n)
  have hmissing : resolve missing [] ⟨.root, [.key "x"]⟩ = none := rfl
  have hheld : resolve held [] ⟨.root, [.key "x"]⟩ = some (.number (.whole n)) := rfl
  have hdigits : String.ofList (wholeText n) = "9223372036854775808" := by decide +kernel
  have hshown : String.ofList (shownDefault n) = "9.223372036854776e+18" := by decide +kernel
  refine ⟨Value.Reader.readNumber_wholeText (by decide) (by decide), by decide, ?_, ?_, ?_⟩
  · rw [renderBody_of_parse held hreference, renderNodes_reference hheld, done_andThen,
      String.ofList_toList, ← hdigits]
    rfl
  · rw [defaultBody, hdigits]
    decide
  · rw [renderBody_of_parse missing hdefault, renderNodes_default hmissing, done_andThen,
      display_readArgument_wholeText (by decide) (by decide), String.ofList_toList, hshown]
    rfl

end Template

end Docket
