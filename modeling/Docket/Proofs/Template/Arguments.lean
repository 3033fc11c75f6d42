import Docket.Proofs.Path.Display
import Docket.Proofs.Template.Cutting
import Docket.Value.Print

/-!
# Reading arguments back

A text is sealed against a separator if it has none outside quotes and closes all its quotes
(`Sealed`).  Sealed texts can be put side by side, so splitting outside quotes undoes writing them
with the separator between them, white space around them aside (`map_trim_splitOutsideQuotes`).

An argument is written between double quotes if it is a text, and compactly otherwise.  Written so,
a plain argument is sealed against every separator in use (`PlainArgument.isSealed`), and it is read
back as it was (`readArgument_argumentChars`).
-/

namespace Docket.Template

/-! ## Sealed texts -/

/-- Whether a text has no separator outside quotes and closes every quote, given the quote that is
open at its start. -/
def isSealedFrom (separator : Char) : Option Char → List Char → Bool
  | quote, [] => quote.isNone
  | quote, c :: cs =>
    !(quote.isNone && !isQuote c && c = separator) &&
      isSealedFrom separator (quoteAfter quote c) cs

/-- A text without the separator outside quotes that closes every quote. -/
def Sealed (separator : Char) (cs : List Char) : Prop := isSealedFrom separator none cs

variable {separator : Char} {quote : Option Char} {a b : List Char}

lemma isSealedFrom_append (ha : isSealedFrom separator quote a) (hb : Sealed separator b) :
    isSealedFrom separator quote (a ++ b) := by
  induction a generalizing quote with
  | nil =>
      cases quote with
      | none => exact hb
      | some q => cases ha
  | cons c a ih =>
      simp only [isSealedFrom, Bool.and_eq_true] at ha
      simp only [List.cons_append, isSealedFrom, Bool.and_eq_true]
      exact ⟨ha.1, ih ha.2⟩

lemma Sealed.append (ha : Sealed separator a) (hb : Sealed separator b) :
    Sealed separator (a ++ b) := isSealedFrom_append ha hb

lemma sealed_of_forall (h : ∀ c ∈ a, isQuote c = false ∧ c ≠ separator) : Sealed separator a := by
  induction a with
  | nil => rfl
  | cons c a ih =>
      obtain ⟨⟨hquote, hseparator⟩, ha⟩ := List.forall_mem_cons.mp h
      have htail : isSealedFrom separator none a := ih ha
      simp [Sealed, isSealedFrom, quoteAfter, hquote, hseparator, htail]

/-- Between double quotes everything but a double quote is sealed. -/
lemma sealed_quoted (h : '"' ∉ a) : Sealed separator ('"' :: (a ++ ['"'])) := by
  have hinside : isSealedFrom separator (some '"') (a ++ ['"']) := by
    induction a with
    | nil => rfl
    | cons c a ih =>
        simp only [List.mem_cons, not_or] at h
        have hc : c ≠ '"' := fun heq => h.1 heq.symm
        simp [isSealedFrom, quoteAfter, hc, ih h.2]
  simpa [Sealed, isSealedFrom, quoteAfter, isQuote] using hinside

/-- What holds of pieces and of the mark between them, and of any two texts together, holds of the
pieces with the mark between them. -/
lemma intercalate_of_append {P : List Char → Prop} (hnil : P [])
    (happend : ∀ {a b}, P a → P b → P (a ++ b)) {mark : List Char} {pieces : List (List Char)}
    (hmark : P mark) (h : ∀ piece ∈ pieces, P piece) : P (mark.intercalate pieces) := by
  match pieces with
  | [] => exact hnil
  | [piece] => simpa using h
  | piece :: next :: rest =>
      obtain ⟨hpiece, hrest⟩ := List.forall_mem_cons.mp h
      rw [List.intercalate_cons_cons]
      exact happend (happend hpiece hmark) (intercalate_of_append hnil happend hmark hrest)

/-! ## Splitting sealed texts -/

/-- A sealed text goes to the first piece of what follows. -/
lemma splitFrom_append (ha : isSealedFrom separator quote a) {piece : List Char}
    {rest : List (List Char)} (hb : splitFrom separator none b = piece :: rest) :
    splitFrom separator quote (a ++ b) = (a ++ piece) :: rest := by
  induction a generalizing quote with
  | nil =>
      cases quote with
      | none => exact hb
      | some q => cases ha
  | cons c a ih =>
      simp only [isSealedFrom, Bool.and_eq_true, Bool.not_eq_true'] at ha
      rw [List.cons_append, splitFrom, if_neg (by simp [ha.1]), ih ha.2]
      rfl

lemma splitOutsideQuotes_of_sealed (ha : Sealed separator a) :
    splitOutsideQuotes separator a = [a] := by
  have hsplit : splitFrom separator none (a ++ []) = _ := splitFrom_append ha rfl
  rwa [List.append_nil] at hsplit

/-- A separator outside quotes is a cut. -/
lemma splitFrom_cons_of_cut (hseparator : isQuote separator = false) (cs : List Char) :
    splitFrom separator none (separator :: cs) = [] :: splitFrom separator none cs := by
  simp [splitFrom, hseparator]

lemma splitOutsideQuotes_append_cons (ha : Sealed separator a)
    (hseparator : isQuote separator = false) (b : List Char) :
    splitOutsideQuotes separator (a ++ separator :: b) = a :: splitOutsideQuotes separator b := by
  rw [splitOutsideQuotes, splitFrom_append ha (splitFrom_cons_of_cut hseparator b), List.append_nil]
  rfl

lemma splitFrom_ne_nil (separator : Char) (quote : Option Char) (cs : List Char) :
    splitFrom separator quote cs ≠ [] := by
  cases cs with
  | nil => simp [splitFrom]
  | cons c cs =>
      rw [splitFrom]
      split
      · simp
      · split <;> simp

/-- **Splitting undoes writing with separators.**  Around a separator there may be white space. -/
lemma map_trim_splitOutsideQuotes {before after : List Char} {pieces : List (List Char)}
    (hseparator : isQuote separator = false) (hbefore : ∀ c ∈ before, Text.isBlank c)
    (hafter : ∀ c ∈ after, Text.isBlank c) (hbefore' : Sealed separator before)
    (hafter' : Sealed separator after)
    (h : ∀ piece ∈ pieces, Sealed separator piece ∧ Text.Trimmed piece ∧ piece ≠ [])
    (hne : pieces ≠ []) :
    (splitOutsideQuotes separator ((before ++ separator :: after).intercalate pieces)).map
      Text.trim = pieces := by
  match pieces with
  | [piece] =>
      obtain ⟨hpiece, htrimmed, -⟩ := h piece (by simp)
      simp [splitOutsideQuotes_of_sealed hpiece, Text.trim_of_trimmed htrimmed]
  | piece :: next :: rest =>
      obtain ⟨⟨hpiece, htrimmed, hpiece'⟩, hrest⟩ := List.forall_mem_cons.mp h
      have ih := map_trim_splitOutsideQuotes hseparator hbefore hafter hbefore' hafter' hrest
        (List.cons_ne_nil _ _)
      -- the white space behind the separator goes to the next piece, where it is trimmed away
      generalize htail : (before ++ separator :: after).intercalate (next :: rest) = tail at ih
      obtain ⟨front, back, hsplit⟩ :=
        List.exists_cons_of_ne_nil (splitFrom_ne_nil separator none tail)
      have hnext : splitOutsideQuotes separator (after ++ tail) = (after ++ front) :: back :=
        splitFrom_append hafter' hsplit
      have hshape : piece ++ (before ++ separator :: after) ++ tail =
          (piece ++ before) ++ separator :: (after ++ tail) := by simp
      rw [splitOutsideQuotes, hsplit] at ih
      rw [List.intercalate_cons_cons, htail, hshape,
        splitOutsideQuotes_append_cons (hpiece.append hbefore') hseparator, hnext,
        List.map_cons, List.map_cons, Text.trim_append_left hafter,
        Text.trim_append_right htrimmed hpiece' hbefore, ← List.map_cons, ih]

/-! ## Arguments as they are written -/

/-- An argument as it is written: a text between double quotes, any other value compactly. -/
def argumentChars : Value → List Char
  | .text s => '"' :: (s.toList ++ ['"'])
  | v => v.compactChars

/-- An argument that reading gives back: a text without double quotes and without closing braces, a
whole number in the signed 64-bit range, a truth value or null. -/
def PlainArgument : Value → Prop
  | .text s => '"' ∉ s.toList ∧ ¬ closingBraces <:+: s.toList
  | .number (.whole n) => -Numeral.signedBound ≤ n ∧ n < Numeral.signedBound
  | .bool _ | .null => True
  | _ => False

/-- A word is made of characters of paths. -/
def Word (cs : List Char) : Prop := cs ≠ [] ∧ ∀ c ∈ cs, Path.isPathChar c

lemma word_of_all {cs : List Char} (hne : cs ≠ []) (h : cs.all Path.isPathChar) : Word cs :=
  ⟨hne, List.all_eq_true.mp h⟩

lemma Word.not_mem {cs : List Char} (h : Word cs) {c : Char} (hc : c ∈ Path.outerMarks) :
    c ∉ cs := by
  intro hmem
  have hmark := Path.isPathChar_of_mem_outerMarks c hc
  simp [h.2 c hmem] at hmark

lemma Word.trimmed {cs : List Char} (h : Word cs) : Text.Trimmed cs := by
  refine Text.trimmed_of_forall fun c hc => ?_
  by_contra hblank
  have hforeign := Path.isPathChar_of_isBlank (Bool.eq_true_of_not_eq_false hblank)
  simp [h.2 c hc] at hforeign

lemma Word.isQuote_eq_false {cs : List Char} (h : Word cs) {c : Char} (hc : c ∈ cs) :
    isQuote c = false := by
  have hdouble : c ≠ '"' := by
    rintro rfl
    exact h.not_mem (by decide) hc
  have hsingle : c ≠ '\'' := by
    rintro rfl
    exact h.not_mem (by decide) hc
  simp [isQuote, hdouble, hsingle]

lemma Word.isSealed {cs : List Char} (h : Word cs) (hseparator : separator ∈ Path.outerMarks) :
    Sealed separator cs := by
  refine sealed_of_forall fun c hc => ⟨h.isQuote_eq_false hc, ?_⟩
  rintro rfl
  exact h.not_mem hseparator hc

lemma word_wholeText (n : Int) : Word (Numeral.wholeText n) := by
  refine ⟨Numeral.wholeText_ne_nil n, fun c hc => ?_⟩
  rcases Numeral.mem_wholeText hc with hdigit | rfl
  · simp [Path.isPathChar, Path.isNameChar_of_isDigit hdigit]
  · decide +kernel

/-- Every plain argument that is not a text is written as a word. -/
lemma PlainArgument.word {v : Value} (h : PlainArgument v) (htext : ∀ s, v ≠ .text s) :
    Word (argumentChars v) := by
  match v, h with
  | .text s, _ => exact absurd rfl (htext s)
  | .number (.whole n), _ => exact word_wholeText n
  | .bool true, _ => exact word_of_all (by decide) (by decide +kernel)
  | .bool false, _ => exact word_of_all (by decide) (by decide +kernel)
  | .null, _ => exact word_of_all (by decide) (by decide +kernel)

lemma argumentChars_ne_nil {v : Value} (h : PlainArgument v) : argumentChars v ≠ [] := by
  cases v with
  | text s => exact List.cons_ne_nil _ _
  | _ => exact (h.word (by simp)).1

lemma trimmed_argumentChars {v : Value} (h : PlainArgument v) : Text.Trimmed (argumentChars v) := by
  cases v with
  | text s =>
      refine ⟨?_, ?_⟩
      · simp only [argumentChars]
        rintro c ⟨⟩
        decide
      · simp only [argumentChars, List.getLast?_cons, List.getLast?_concat]
        rintro c ⟨⟩
        decide
  | _ => exact (h.word (by simp)).trimmed

/-- **A written argument is sealed**, whatever stands between its quotes. -/
lemma PlainArgument.isSealed {v : Value} (h : PlainArgument v)
    (hseparator : separator ∈ Path.outerMarks) : Sealed separator (argumentChars v) := by
  cases v with
  | text s => exact sealed_quoted h.1
  | _ => exact (h.word (by simp)).isSealed hseparator

/-! ## Reading arguments -/

lemma readArgument_trim (cs : List Char) : readArgument (Text.trim cs) = readArgument cs := by
  rw [readArgument, Text.trim_trim, readArgument]

lemma Word.unquoted?_eq_none {cs : List Char} (h : Word cs) : unquoted? cs = none := by
  obtain ⟨c, rest, rfl⟩ := List.exists_cons_of_ne_nil h.1
  have hquote := h.isQuote_eq_false List.mem_cons_self
  simp only [unquoted?, hquote]
  split <;> rfl

lemma unquoted?_quoted (cs : List Char) : unquoted? ('"' :: (cs ++ ['"'])) = some cs := by
  simp [unquoted?, isQuote]

lemma wholeText_ne_cons {c : Char} (hdigit : Numeral.isDigit c = false) (hc : c ≠ '-') (n : Int)
    (cs : List Char) : Numeral.wholeText n ≠ c :: cs := by
  intro heq
  rcases Numeral.mem_wholeText (heq ▸ List.mem_cons_self) with hmem | hmem
  · simp [hdigit] at hmem
  · exact hc hmem

/-- A whole number is neither in quotes nor a constant, so it is read as a number: a signed one, or
else a double. -/
lemma readArgument_wholeText (n : Int) :
    readArgument (Numeral.wholeText n) =
      ((Numeral.signed? (Numeral.wholeText n)).map fun m => Value.number (.whole m)).getD
        (((double? (Numeral.wholeText n)).map fun d => Value.number (.double d)).getD
          (.text (String.ofList (Numeral.wholeText n)))) := by
  have hword := word_wholeText n
  rw [readArgument, Text.trim_of_trimmed hword.trimmed]
  simp only [hword.unquoted?_eq_none,
    if_neg (wholeText_ne_cons (c := 't') (by decide) (by decide) n _),
    if_neg (wholeText_ne_cons (c := 'f') (by decide) (by decide) n _),
    if_neg (wholeText_ne_cons (c := 'n') (by decide) (by decide) n _)]
  cases Numeral.signed? (Numeral.wholeText n) with
  | some m => rfl
  | none => cases double? (Numeral.wholeText n) <;> rfl

/-- **A plain argument is read back** as it was written. -/
lemma readArgument_argumentChars {v : Value} (h : PlainArgument v) :
    readArgument (argumentChars v) = v := by
  match v, h with
  | .text s, h =>
      rw [readArgument, Text.trim_of_trimmed (trimmed_argumentChars h)]
      simp [argumentChars, unquoted?_quoted]
  | .number (.whole n), h =>
      have hchars : argumentChars (.number (.whole n)) = Numeral.wholeText n := rfl
      rw [hchars, readArgument_wholeText, Numeral.signed?_wholeText h.1 h.2]
      rfl
  | .bool true, _ => rfl
  | .bool false, _ => rfl
  | .null, _ => rfl

end Docket.Template
