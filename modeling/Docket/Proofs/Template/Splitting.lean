import Docket.Proofs.Template.Arguments

/-!
# Splitting outside quotes

Where `splitOutsideQuotes` cuts.  A quote opens unless it stands within quotes itself (`Opens`), and
what stands behind it is within quotes until the next quote of its kind, or to the end (`Within`).
Both are told from positions alone.  The split carries the open quote along instead;
`quoteAt_eq_some_iff` says that this is the quote that the present position is within.

`splitOutsideQuotes_exact` puts together what the split of tags at bars and the split of arguments at
commas rest on: nothing is lost, the cuts are the separators that are not within quotes, and a text
may be cut in two at such a separator before it is split.
-/

namespace Docket.Template

/-! ## Quotes by their positions -/

/-- A quote opens unless it stands within quotes: behind every quote that opens before it, there is
another one of the same kind in between. -/
def Opens (cs : List Char) (i : Nat) : Prop :=
  (∃ q, cs[i]? = some q ∧ isQuote q) ∧
    ∀ j, j < i → Opens cs j → ∃ k, j < k ∧ k < i ∧ cs[k]? = cs[j]?
termination_by i

/-- A position is within quotes of a kind if it stands behind one that opens, with no other one of
the same kind in between. -/
def Within (cs : List Char) (q : Char) (i : Nat) : Prop :=
  ∃ j < i, Opens cs j ∧ cs[j]? = some q ∧ ∀ k, j < k → k < i → cs[k]? ≠ some q

/-- A position is within quotes. -/
def WithinQuotes (cs : List Char) (i : Nat) : Prop := ∃ q, Within cs q i

variable {cs : List Char} {i : Nat} {c q : Char}

lemma opens_iff : Opens cs i ↔ (∃ q, cs[i]? = some q ∧ isQuote q) ∧ ¬ WithinQuotes cs i := by
  rw [Opens]
  refine and_congr_right fun _ => ?_
  constructor
  · rintro hclosed ⟨q, j, hj, hopens, hq, hbetween⟩
    obtain ⟨k, hjk, hki, hk⟩ := hclosed j hj hopens
    exact hbetween k hjk hki (hk.trans hq)
  · intro hwithin j hj hopens
    by_contra hnone
    obtain ⟨⟨q, hq, -⟩, -⟩ := Opens.eq_1 cs j ▸ hopens
    refine hwithin ⟨q, j, hj, hopens, hq, fun k hjk hki hk => hnone ?_⟩
    exact ⟨k, hjk, hki, hk.trans hq.symm⟩

/-- One character on, a position is within the same quotes unless they end there, or within those that
open there. -/
lemma within_succ_iff :
    Within cs q (i + 1) ↔ Within cs q i ∧ cs[i]? ≠ some q ∨ Opens cs i ∧ cs[i]? = some q := by
  constructor
  · rintro ⟨j, hj, hopens, hq, hbetween⟩
    rcases Nat.lt_succ_iff_lt_or_eq.mp hj with hj | rfl
    · exact .inl ⟨⟨j, hj, hopens, hq, fun k hjk hki => hbetween k hjk (by omega)⟩,
        hbetween i hj (Nat.lt_succ_self i)⟩
    · exact .inr ⟨hopens, hq⟩
  · rintro (⟨⟨j, hj, hopens, hq, hbetween⟩, hi⟩ | ⟨hopens, hq⟩)
    · refine ⟨j, Nat.lt_succ_of_lt hj, hopens, hq, fun k hjk hki => ?_⟩
      rcases Nat.lt_succ_iff_lt_or_eq.mp hki with hki | rfl
      · exact hbetween k hjk hki
      · exact hi
    · exact ⟨i, Nat.lt_succ_self i, hopens, hq, fun k hik hki => absurd hki (by omega)⟩

/-! ## The quote that is open -/

/-- The quote that is open in front of a position. -/
def quoteAt (cs : List Char) (i : Nat) : Option Char := (cs.take i).foldl quoteAfter none

lemma quoteAt_succ (hc : cs[i]? = some c) : quoteAt cs (i + 1) = quoteAfter (quoteAt cs i) c := by
  rw [quoteAt, List.take_add_one, hc, List.foldl_append]
  rfl

lemma quoteAt_succ_of_end (hend : cs[i]? = none) : quoteAt cs (i + 1) = quoteAt cs i := by
  rw [quoteAt, List.take_add_one, hend, Option.toList_none, List.append_nil, quoteAt]

/-- **The quote that is open in front of a position** is the one that the position is within. -/
lemma quoteAt_eq_some_iff : quoteAt cs i = some q ↔ Within cs q i := by
  induction i generalizing q with
  | zero => simp [quoteAt, Within]
  | succ i ih =>
      have hwithin : WithinQuotes cs i ↔ ∃ q, quoteAt cs i = some q := exists_congr fun q => ih.symm
      rw [within_succ_iff, opens_iff, hwithin, ← ih]
      cases hc : cs[i]? with
      | none => simp [quoteAt_succ_of_end hc]
      | some c =>
          rw [quoteAt_succ hc]
          cases hquote : quoteAt cs i with
          | none =>
              -- nothing is open, so a quote opens
              by_cases hopening : isQuote c <;> simp [quoteAfter, hopening]
          | some opened =>
              -- only a quote of the same kind ends what is open
              by_cases hsame : c = opened <;> grind [quoteAfter]

lemma quoteAt_eq_none_iff : quoteAt cs i = none ↔ ¬ WithinQuotes cs i := by
  rw [Option.eq_none_iff_forall_ne_some, WithinQuotes, not_exists]
  exact forall_congr' fun q => not_congr quoteAt_eq_some_iff

/-! ## Pieces and cuts -/

/-- The positions of the separators between pieces. -/
def cuts : List (List Char) → List Nat
  | piece :: next :: rest => piece.length :: (cuts (next :: rest)).map (· + (piece.length + 1))
  | _ => []

/-- A character in front of the first piece moves all cuts. -/
lemma cuts_cons_cons (c : Char) (piece : List Char) (rest : List (List Char)) :
    cuts ((c :: piece) :: rest) = (cuts (piece :: rest)).map (· + 1) := by
  cases rest with
  | nil => rfl
  | cons next rest =>
      simp only [cuts, List.length_cons, List.map_cons, List.map_map]
      rfl

section

variable {separator : Char} {quote : Option Char}

/-- A character that is no cut goes to the first piece of what follows. -/
lemma splitFrom_cons_of_keep (h : ¬ (quote = none ∧ c = separator)) (cs : List Char) :
    ∃ piece rest, splitFrom separator (quoteAfter quote c) cs = piece :: rest ∧
      splitFrom separator quote (c :: cs) = (c :: piece) :: rest := by
  obtain ⟨piece, rest, hsplit⟩ :=
    List.exists_cons_of_ne_nil (splitFrom_ne_nil separator (quoteAfter quote c) cs)
  have hkeep : ¬ (quote.isNone && !isQuote c && decide (c = separator)) = true := by
    simp only [Bool.and_eq_true, Option.isNone_iff_eq_none, decide_eq_true_eq]
    exact fun ⟨⟨hnone, _⟩, hc⟩ => h ⟨hnone, hc⟩
  exact ⟨piece, rest, hsplit, by rw [splitFrom, if_neg hkeep, hsplit]⟩

variable (hseparator : isQuote separator = false)

include hseparator

lemma quoteAfter_separator : quoteAfter none separator = none := by
  simp [quoteAfter, hseparator]

lemma intercalate_splitFrom : [separator].intercalate (splitFrom separator quote cs) = cs := by
  induction cs generalizing quote with
  | nil => rfl
  | cons c cs ih =>
      by_cases hcut : quote = none ∧ c = separator
      · obtain ⟨rfl, rfl⟩ := hcut
        have hne := splitFrom_ne_nil c none cs
        rw [splitFrom_cons_of_cut hseparator, List.intercalate_cons_of_ne_nil hne, ih]
        rfl
      · obtain ⟨piece, rest, hsplit, hkeep⟩ := splitFrom_cons_of_keep hcut cs
        have hwhole : [separator].intercalate (splitFrom separator (quoteAfter quote c) cs) = cs :=
          ih
        rw [hsplit] at hwhole
        rw [hkeep, ← hwhole]
        cases rest with
        | nil => simp
        | cons next rest => simp [List.intercalate_cons_cons]

/-- The cuts are the separators in front of which no quote is open. -/
lemma mem_cuts_splitFrom : i ∈ cuts (splitFrom separator quote cs) ↔
    cs[i]? = some separator ∧ (cs.take i).foldl quoteAfter quote = none := by
  induction cs generalizing quote i with
  | nil => simp [splitFrom, cuts]
  | cons c cs ih =>
      by_cases hcut : quote = none ∧ c = separator
      · obtain ⟨rfl, rfl⟩ := hcut
        obtain ⟨piece, rest, hsplit⟩ := List.exists_cons_of_ne_nil (splitFrom_ne_nil c none cs)
        have hcuts : cuts (splitFrom c none (c :: cs)) =
            0 :: (cuts (splitFrom c none cs)).map (· + 1) := by
          rw [splitFrom_cons_of_cut hseparator, hsplit]
          rfl
        rw [hcuts]
        cases i with
        | zero => simp
        | succ i => simp [ih, quoteAfter_separator hseparator]
      · obtain ⟨piece, rest, hsplit, hkeep⟩ := splitFrom_cons_of_keep hcut cs
        rw [hkeep, cuts_cons_cons, ← hsplit]
        cases i with
        | zero =>
            simp only [List.mem_map, Nat.add_one_ne_zero, and_false, exists_false, false_iff,
              List.getElem?_cons_zero, Option.some.injEq, List.take_zero, List.foldl_nil]
            exact fun h => hcut ⟨h.2, h.1⟩
        | succ i => simp [ih]

/-- A text is split by itself if a separator follows while no quote is open. -/
lemma splitFrom_append_cons {a : List Char} (hclosed : a.foldl quoteAfter quote = none)
    (b : List Char) :
    splitFrom separator quote (a ++ separator :: b) =
      splitFrom separator quote a ++ splitFrom separator none b := by
  induction a generalizing quote with
  | nil =>
      obtain rfl : quote = none := hclosed
      exact splitFrom_cons_of_cut hseparator b
  | cons c a ih =>
      by_cases hcut : quote = none ∧ c = separator
      · obtain ⟨rfl, rfl⟩ := hcut
        rw [List.foldl_cons, quoteAfter_separator hseparator] at hclosed
        rw [List.cons_append, splitFrom_cons_of_cut hseparator, splitFrom_cons_of_cut hseparator,
          ih hclosed, List.cons_append]
      · obtain ⟨piece, rest, hsplit, hkeep⟩ := splitFrom_cons_of_keep hcut a
        obtain ⟨piece', rest', hsplit', hkeep'⟩ :=
          splitFrom_cons_of_keep hcut (a ++ separator :: b)
        rw [ih hclosed, hsplit, List.cons_append, List.cons.injEq] at hsplit'
        obtain ⟨rfl, rfl⟩ := hsplit'
        rw [List.cons_append, hkeep', hkeep, List.cons_append]

end

/-- **Splitting outside quotes** loses nothing: with the separator between them, the pieces are the
text again.  A separator is a cut exactly if it is not within quotes.  And where a text ends outside
of quotes, the pieces of what follows a separator come behind its own pieces. -/
theorem splitOutsideQuotes_exact {separator : Char} (hseparator : isQuote separator = false) :
    (∀ cs, [separator].intercalate (splitOutsideQuotes separator cs) = cs) ∧
    (∀ cs i, i ∈ cuts (splitOutsideQuotes separator cs) ↔
      cs[i]? = some separator ∧ ¬ WithinQuotes cs i) ∧
    (∀ a b, ¬ WithinQuotes a a.length → splitOutsideQuotes separator (a ++ separator :: b) =
      splitOutsideQuotes separator a ++ splitOutsideQuotes separator b) := by
  refine ⟨fun cs => intercalate_splitFrom hseparator, fun cs i => ?_, fun a b hclosed => ?_⟩
  · rw [splitOutsideQuotes, mem_cuts_splitFrom hseparator, ← quoteAt_eq_none_iff, quoteAt]
  · rw [← quoteAt_eq_none_iff, quoteAt, List.take_length] at hclosed
    exact splitFrom_append_cons hseparator hclosed b

/-- An apostrophe within double quotes opens nothing, and one that is never closed reaches to the
end: of five bars the second, the third and the last are no cuts. -/
theorem splitOutsideQuotes_exact_hidden :
    let cs := "a|\"|'|\"|'|".toList
    isQuote '|' = false ∧
      splitOutsideQuotes '|' cs = ["a".toList, "\"|'|\"".toList, "'|".toList] ∧
      ['|'].intercalate (splitOutsideQuotes '|' cs) = cs ∧
      (¬ WithinQuotes cs 1 ∧ WithinQuotes cs 3 ∧ WithinQuotes cs 5 ∧ ¬ WithinQuotes cs 7 ∧
        WithinQuotes cs 9) ∧
      splitOutsideQuotes '|' cs =
        splitOutsideQuotes '|' "a|\"|'|\"".toList ++ splitOutsideQuotes '|' "'|".toList := by
  intro cs
  have hbar : isQuote '|' = false := rfl
  obtain ⟨hjoin, hcuts, happend⟩ := splitOutsideQuotes_exact hbar
  have hnocut {i : Nat} (hi : cs[i]? = some '|') (hcut : i ∉ cuts (splitOutsideQuotes '|' cs)) :
      WithinQuotes cs i := by
    by_contra hwithin
    exact hcut ((hcuts cs i).mpr ⟨hi, hwithin⟩)
  have hclosed : ¬ WithinQuotes "a|\"|'|\"".toList "a|\"|'|\"".toList.length :=
    quoteAt_eq_none_iff.mp (by decide)
  refine ⟨hbar, by decide, hjoin cs, ⟨((hcuts cs 1).mp (by decide)).2, hnocut rfl (by decide),
    hnocut rfl (by decide), ((hcuts cs 7).mp (by decide)).2, hnocut rfl (by decide)⟩,
    happend _ "'|".toList hclosed⟩

end Docket.Template
