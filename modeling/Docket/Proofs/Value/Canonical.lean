import Docket.Context
import Docket.Proofs.Number.Text

/-!
# The canonical text of a value

`Context.canonical` writes a value so that nothing is lost: two values with one text are the same
value.  Every part ends where its text says so.  A text ends at its closing quote, a list or map at
its closing bracket, and a number at the first character that numbers are not written with, which
is why canonical lists and maps put a comma behind every entry.

`Value.isFinite` keeps out the doubles that data cannot hold.  They would be written like null.
-/

namespace Docket

/-! ## Escaped texts -/

namespace Value

open Reader (readText)

lemma hexFour_readsBack : ∀ n < 32, ∃ a b c d, hexFour n = [a, b, c, d] ∧
    Reader.hexFour a b c d = some n := by
  -- below thirty-two the last two of the four digits tell the number
  have hall : ∀ n < 32,
      hexFour n = ['0', '0', (hexFour n).getD 2 '0', (hexFour n).getD 3 '0'] ∧
        Reader.hexFour '0' '0' ((hexFour n).getD 2 '0') ((hexFour n).getD 3 '0') = some n := by
    decide
  exact fun n hn => ⟨'0', '0', _, _, hall n hn⟩

/-- A control character is read back from its code. -/
lemma readText_control {c : Char} (h : c.toNat < 32) (rest : List Char) :
    readText ('\\' :: 'u' :: (hexFour c.toNat ++ rest)) =
      (readText rest).map fun (cs, r) => (c :: cs, r) := by
  obtain ⟨a, b, x, y, hhex, hread⟩ := hexFour_readsBack _ h
  have hhigh : ¬ (decide (0xD800 ≤ c.toNat) && decide (c.toNat < 0xDC00)) = true := by
    simp
    omega
  have hlow : ¬ (decide (0xDC00 ≤ c.toNat) && decide (c.toNat < 0xE000)) = true := by
    simp
    omega
  rw [hhex, List.cons_append, List.cons_append, List.cons_append, List.cons_append,
    List.nil_append, readText]
  simp only [hread]
  rw [if_neg hhigh, if_neg hlow, Char.ofNat_toNat]

/-- A character that is not escaped is read back. -/
lemma readText_plain {c : Char} (hquote : c ≠ '"') (hbackslash : c ≠ '\\')
    (hcontrol : ¬ c.toNat < 32) (rest : List Char) :
    readText (c :: rest) = (readText rest).map fun (cs, r) => (c :: cs, r) := by
  simp [readText, hbackslash, hcontrol]

/-- An escaped character is read back, whatever follows it. -/
lemma readText_escapeChar (c : Char) (rest : List Char) :
    readText (escapeChar c ++ rest) = (readText rest).map fun (cs, r) => (c :: cs, r) := by
  rw [escapeChar.eq_def]
  split
  · rename_i h
    obtain rfl : c = '"' := Char.toNat_inj.mp h
    simp [readText]
  · rename_i h
    obtain rfl : c = '\\' := Char.toNat_inj.mp h
    simp [readText]
  · rename_i h
    obtain rfl : c = Char.ofNat 8 := Char.toNat_inj.mp h
    simp [readText]
  · rename_i h
    obtain rfl : c = '\t' := Char.toNat_inj.mp h
    simp [readText]
  · rename_i h
    obtain rfl : c = '\n' := Char.toNat_inj.mp h
    simp [readText]
  · rename_i h
    obtain rfl : c = Char.ofNat 12 := Char.toNat_inj.mp h
    simp [readText]
  · rename_i h
    obtain rfl : c = '\r' := Char.toNat_inj.mp h
    simp [readText]
  · rename_i hquote hbackslash _ _ _ _ _
    split
    · rename_i hcontrol
      exact readText_control hcontrol rest
    · rename_i hcontrol
      exact readText_plain (fun h => hquote (by rw [h]; rfl))
        (fun h => hbackslash (by rw [h]; rfl)) hcontrol rest

/-- A text between quotes is read back behind its opening quote, whatever follows it. -/
lemma readText_escaped (cs rest : List Char) :
    readText (cs.flatMap escapeChar ++ '"' :: rest) = some (cs, rest) := by
  induction cs with
  | nil => simp [readText]
  | cons c cs ih =>
      rw [List.flatMap_cons, List.append_assoc, readText_escapeChar, ih]
      rfl

/-- **A text between quotes ends at its closing quote**: two of them that start one line are the
same. -/
theorem escaped_append_inj {s t : String} {r r' : List Char}
    (h : escaped s ++ r = escaped t ++ r') : s = t ∧ r = r' := by
  simp only [escaped, List.cons_append, List.append_assoc, List.nil_append, List.cons.injEq,
    true_and] at h
  have hread := congrArg readText h
  rw [readText_escaped, readText_escaped] at hread
  simp only [Option.some.injEq, Prod.mk.injEq] at hread
  exact ⟨String.toList_inj.mp hread.1, hread.2⟩

/-! ## Finite data -/

mutual

/-- Whether every number of a value is one that data can hold. -/
def isFinite : Value → Bool
  | number n => n.isFinite
  | list items => itemsFinite items
  | map entries => entriesFinite entries
  | _ => true

/-- Whether every number of a list is one that data can hold. -/
def itemsFinite : List Value → Bool
  | [] => true
  | v :: rest => isFinite v && itemsFinite rest

/-- Whether every number of a map is one that data can hold. -/
def entriesFinite : List (String × Value) → Bool
  | [] => true
  | (_, v) :: rest => isFinite v && entriesFinite rest

end

end Value

/-! ## Canonical texts -/

namespace Context

open Value (isFinite itemsFinite entriesFinite)

/-- The kind of value that a canonical text with this first character is of. -/
def kindLed (c : Char) : Option String :=
  if c = 'n' then some "null"
  else if c = 't' || c = 'f' then some "boolean"
  else if c = '"' then some "string"
  else if c = '[' then some "list"
  else if c = '\x7b' then some "map"
  else if Layout.isNumeral c then some "number"
  else none

lemma kindLed_of_isNumeral {c : Char} (h : Layout.isNumeral c) : kindLed c = some "number" := by
  have hother (d : Char) (hd : Layout.isNumeral d = false) : c ≠ d := by
    rintro rfl
    rw [h] at hd
    cases hd
  simp [kindLed, h, hother 'n' (by decide), hother 't' (by decide), hother 'f' (by decide),
    hother '"' (by decide), hother '[' (by decide), hother '\x7b' (by decide)]

/-- The first character of a canonical text tells the kind of the value. -/
lemma canonical_eq_cons {v : Value} (hv : isFinite v) :
    ∃ c cs, canonical v = c :: cs ∧ kindLed c = some v.kind := by
  cases v with
  | null => exact ⟨_, _, rfl, by decide⟩
  | bool b => cases b <;> exact ⟨_, _, rfl, by decide⟩
  | number n =>
      rw [isFinite] at hv
      obtain ⟨c, cs, heq⟩ := List.exists_cons_of_ne_nil (Number.chars_ne_nil hv)
      have hc := Number.isNumeral_of_mem_chars hv (heq ▸ List.mem_cons_self)
      exact ⟨c, cs, by simpa [canonical, Value.compactChars] using heq, kindLed_of_isNumeral hc⟩
  | text s => exact ⟨_, _, rfl, rfl⟩
  | list items => exact ⟨_, _, rfl, rfl⟩
  | map entries => exact ⟨_, _, rfl, rfl⟩

lemma kind_eq_of_canonical_append {v w : Value} {r r' : List Char} (hv : isFinite v)
    (hw : isFinite w) (h : canonical v ++ r = canonical w ++ r') : v.kind = w.kind := by
  obtain ⟨c, cs, hveq, hc⟩ := canonical_eq_cons hv
  obtain ⟨d, ds, hweq, hd⟩ := canonical_eq_cons hw
  rw [hveq, hweq, List.cons_append, List.cons_append, List.cons.injEq] at h
  rw [h.1, hd, Option.some.injEq] at hc
  exact hc.symm

/-- No value starts as a list ends. -/
lemma canonical_append_ne_close {v : Value} {r r' : List Char} (hv : isFinite v) :
    canonical v ++ r ≠ ']' :: r' := by
  obtain ⟨c, cs, heq, hc⟩ := canonical_eq_cons hv
  rw [heq, List.cons_append]
  intro h
  have hclose : kindLed ']' = none := by decide
  rw [(List.cons.inj h).1, hclose] at hc
  cases hc

/-- A number ends where a character follows that numbers are not written with. -/
lemma chars_append_inj {n m : Number} {r r' : List Char} (hn : n.isFinite) (hm : m.isFinite)
    (hr : r.takeWhile Layout.isNumeral = []) (hr' : r'.takeWhile Layout.isNumeral = [])
    (h : n.chars ++ r = m.chars ++ r') : n = m ∧ r = r' := by
  have htake := congrArg (List.takeWhile Layout.isNumeral) h
  rw [List.takeWhile_append_of_pos fun _ => Number.isNumeral_of_mem_chars hn,
    List.takeWhile_append_of_pos fun _ => Number.isNumeral_of_mem_chars hm, hr, hr',
    List.append_nil, List.append_nil] at htake
  rw [htake] at h
  exact ⟨Number.chars_injective hn hm htake, List.append_cancel_left h⟩

mutual

/-- **A canonical text ends with its value.**  Two values whose texts start one line are the same
if neither text can go on as a number. -/
theorem canonical_append_inj (v w : Value) (r r' : List Char) (hv : isFinite v) (hw : isFinite w)
    (hr : r.takeWhile Layout.isNumeral = []) (hr' : r'.takeWhile Layout.isNumeral = [])
    (h : canonical v ++ r = canonical w ++ r') : v = w ∧ r = r' := by
  have hkind := kind_eq_of_canonical_append hv hw h
  match v with
  | .null =>
      cases w with
      | null => exact ⟨rfl, List.append_cancel_left h⟩
      | _ => simp [Value.kind] at hkind
  | .bool b =>
      cases w with
      | bool b' => cases b <;> cases b' <;> simp_all [canonical, Value.compactChars]
      | _ => simp [Value.kind] at hkind
  | .number n =>
      cases w with
      | number m =>
          obtain ⟨rfl, hrest⟩ := chars_append_inj hv hw hr hr' h
          exact ⟨rfl, hrest⟩
      | _ => simp [Value.kind] at hkind
  | .text s =>
      cases w with
      | text t =>
          obtain ⟨rfl, hrest⟩ := Value.escaped_append_inj h
          exact ⟨rfl, hrest⟩
      | _ => simp [Value.kind] at hkind
  | .list items =>
      cases w with
      | list items' =>
          simp only [canonical, List.cons_append, List.append_assoc, List.nil_append,
            List.cons.injEq, true_and] at h
          obtain ⟨rfl, hrest⟩ := canonicalItems_append_inj items items' r r' hv hw h
          exact ⟨rfl, hrest⟩
      | _ => simp [Value.kind] at hkind
  | .map entries =>
      cases w with
      | map entries' =>
          simp only [canonical, List.cons_append, List.append_assoc, List.nil_append,
            List.cons.injEq, true_and] at h
          obtain ⟨rfl, hrest⟩ := canonicalEntries_append_inj entries entries' r r' hv hw h
          exact ⟨rfl, hrest⟩
      | _ => simp [Value.kind] at hkind

lemma canonicalItems_append_inj (items items' : List Value) (r r' : List Char)
    (hv : itemsFinite items) (hw : itemsFinite items')
    (h : canonicalItems items ++ ']' :: r = canonicalItems items' ++ ']' :: r') :
    items = items' ∧ r = r' := by
  match items, items' with
  | [], [] => exact ⟨rfl, (List.cons.inj h).2⟩
  | [], w :: rest' =>
      rw [itemsFinite, Bool.and_eq_true] at hw
      simp only [canonicalItems, List.append_assoc, List.nil_append] at h
      exact absurd h.symm (canonical_append_ne_close hw.1)
  | v :: rest, [] =>
      rw [itemsFinite, Bool.and_eq_true] at hv
      simp only [canonicalItems, List.append_assoc, List.nil_append] at h
      exact absurd h (canonical_append_ne_close hv.1)
  | v :: rest, w :: rest' =>
      rw [itemsFinite, Bool.and_eq_true] at hv hw
      simp only [canonicalItems, List.append_assoc, List.cons_append] at h
      obtain ⟨rfl, hcomma⟩ := canonical_append_inj v w _ _ hv.1 hw.1 rfl rfl h
      obtain ⟨rfl, hrest⟩ :=
        canonicalItems_append_inj rest rest' r r' hv.2 hw.2 (List.cons.inj hcomma).2
      exact ⟨rfl, hrest⟩

lemma canonicalEntries_append_inj (entries entries' : List (String × Value)) (r r' : List Char)
    (hv : entriesFinite entries) (hw : entriesFinite entries')
    (h : canonicalEntries entries ++ '\x7d' :: r = canonicalEntries entries' ++ '\x7d' :: r') :
    entries = entries' ∧ r = r' := by
  match entries, entries' with
  | [], [] => exact ⟨rfl, (List.cons.inj h).2⟩
  | [], (k, w) :: rest' =>
      simp [canonicalEntries, Value.escaped] at h
  | (k, v) :: rest, [] =>
      simp [canonicalEntries, Value.escaped] at h
  | (k, v) :: rest, (k', w) :: rest' =>
      rw [entriesFinite, Bool.and_eq_true] at hv hw
      simp only [canonicalEntries, List.append_assoc, List.cons_append] at h
      obtain ⟨rfl, hcolon⟩ := Value.escaped_append_inj h
      obtain ⟨rfl, hcomma⟩ :=
        canonical_append_inj v w _ _ hv.1 hw.1 rfl rfl (List.cons.inj hcolon).2
      obtain ⟨rfl, hrest⟩ :=
        canonicalEntries_append_inj rest rest' r r' hv.2 hw.2 (List.cons.inj hcomma).2
      exact ⟨rfl, hrest⟩

end

/-- **The canonical text determines the value.** -/
theorem canonical_injective {v w : Value} (hv : isFinite v) (hw : isFinite w)
    (h : canonical v = canonical w) : v = w :=
  (canonical_append_inj v w [] [] hv hw rfl rfl (by rw [h])).1

end Context

end Docket
