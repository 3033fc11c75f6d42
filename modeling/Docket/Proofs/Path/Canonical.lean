import Docket.Proofs.Path.Display

/-!
# The canonical form tells paths apart

Steps are written one behind the other, each with a mark that no name contains: a point before a
name, brackets around a position.  So a step ends where its text says, whatever step follows it
(`stepChars_append_inj`), and steps with one canonical form are the same
(`canonicalChars_injective`).

This asks little of names, less than reading does: `Segment.Plain` also lets names pass that consist
of digits.  For paths that have been read, `display_faithful` puts together what their texts tell:
the display gives the path back unless it starts with a bracket, the canonical form gives the steps
back.
-/

namespace Docket

open Numeral

/-- A position, or a name that is not empty and has only characters of names. -/
def Segment.Plain : Segment → Prop
  | .key name => name ≠ "" ∧ ∀ c ∈ name.toList, Path.isNameChar c
  | .index _ => True

lemma Segment.WellFormed.plain {s : Segment} (h : s.WellFormed) : s.Plain := by
  cases s with
  | key name =>
      obtain ⟨hname, c, hc, -⟩ := h
      refine ⟨?_, hname⟩
      rintro rfl
      cases hc
  | index position => trivial

namespace Path

/-! ## Behind a step -/

/-- What may stand behind a step: nothing, or a text that starts with the mark of a step. -/
def MarkLed (cs : List Char) : Prop := ∀ c ∈ cs.head?, c = '.' ∨ c = '['

lemma markLed_stepChars (s : Segment) (cs : List Char) : MarkLed (stepChars s ++ cs) := by
  cases s <;> simp [MarkLed, stepChars, bracketed]

lemma markLed_steps (steps : List Segment) : MarkLed (steps.flatMap stepChars) := by
  cases steps with
  | nil => exact nofun
  | cons s rest => exact markLed_stepChars s _

/-- A name ends at the next mark. -/
lemma MarkLed.takeWhile_isNameChar {cs : List Char} (h : MarkLed cs) :
    cs.takeWhile isNameChar = [] := by
  cases cs with
  | nil => rfl
  | cons c cs =>
      have hmark : isNameChar c = false := by
        rcases h c rfl with rfl | rfl <;> exact isNameChar_of_mem_stepMarks _ (by decide)
      simp [hmark]

variable {r r' : List Char}

lemma name_append_inj {a b : List Char} (ha : ∀ c ∈ a, isNameChar c) (hb : ∀ c ∈ b, isNameChar c)
    (hr : MarkLed r) (hr' : MarkLed r') (h : a ++ r = b ++ r') : a = b ∧ r = r' := by
  have htake := congrArg (List.takeWhile isNameChar) h
  rw [List.takeWhile_append_of_pos ha, List.takeWhile_append_of_pos hb, hr.takeWhile_isNameChar,
    hr'.takeWhile_isNameChar, List.append_nil, List.append_nil] at htake
  rw [htake] at h
  exact ⟨htake, List.append_cancel_left h⟩

/-- A position ends at its closing bracket. -/
lemma bracketed_append_inj {n m : Nat} (h : bracketed n ++ r = bracketed m ++ r') :
    n = m ∧ r = r' := by
  simp only [bracketed, List.cons_append, List.append_assoc, List.nil_append, List.cons.injEq,
    true_and] at h
  have hdigits (k : Nat) : ∀ c ∈ digitsOf k, isDigit c := fun _ => isDigit_of_mem_digitsOf
  have htake := congrArg (List.takeWhile isDigit) h
  have hclose (cs : List Char) : (']' :: cs).takeWhile isDigit = [] := by simp [isDigit]
  rw [List.takeWhile_append_of_pos (hdigits n), List.takeWhile_append_of_pos (hdigits m), hclose,
    hclose, List.append_nil, List.append_nil] at htake
  rw [htake] at h
  exact ⟨digitsOf_injective htake, (List.cons.inj (List.append_cancel_left h)).2⟩

/-! ## Steps -/

/-- **A step ends where its text says**, whatever step follows it. -/
lemma stepChars_append_inj {s s' : Segment} (hs : s.Plain) (hs' : s'.Plain) (hr : MarkLed r)
    (hr' : MarkLed r') (h : stepChars s ++ r = stepChars s' ++ r') : s = s' ∧ r = r' := by
  cases s with
  | key name =>
      cases s' with
      | key name' =>
          obtain ⟨hname, hrest⟩ := name_append_inj hs.2 hs'.2 hr hr' (List.cons.inj h).2
          exact ⟨congrArg Segment.key (String.toList_inj.mp hname), hrest⟩
      | index position => exact absurd (List.cons.inj h).1 (by decide)
  | index position =>
      cases s' with
      | key name => exact absurd (List.cons.inj h).1 (by decide)
      | index position' =>
          obtain ⟨hposition, hrest⟩ := bracketed_append_inj h
          exact ⟨congrArg Segment.index hposition, hrest⟩

variable {steps steps' : List Segment}

lemma steps_injective (hs : ∀ s ∈ steps, s.Plain) (hs' : ∀ s ∈ steps', s.Plain)
    (h : steps.flatMap stepChars = steps'.flatMap stepChars) : steps = steps' := by
  have hne (s : Segment) (cs : List Char) : stepChars s ++ cs ≠ [] := by
    cases s <;> simp [stepChars, bracketed]
  induction steps generalizing steps' with
  | nil =>
      cases steps' with
      | nil => rfl
      | cons s' rest' => exact absurd h.symm (hne s' _)
  | cons s rest ih =>
      cases steps' with
      | nil => exact absurd h (hne s _)
      | cons s' rest' =>
          obtain ⟨hsplain, hrest⟩ := List.forall_mem_cons.mp hs
          obtain ⟨hsplain', hrest'⟩ := List.forall_mem_cons.mp hs'
          obtain ⟨rfl, htail⟩ :=
            stepChars_append_inj hsplain hsplain' (markLed_steps _) (markLed_steps _) h
          rw [ih hrest hrest' htail]

/-! ## The leading step -/

/-- A step as it is written at the start. -/
def leadChars : Segment → List Char
  | .key name => name.toList
  | .index position => bracketed position

lemma canonicalChars_cons (s : Segment) (rest : List Segment) :
    canonicalChars (s :: rest) = leadChars s ++ rest.flatMap stepChars := by
  cases s <;> rfl

lemma leadChars_ne_nil {s : Segment} (hs : s.Plain) : leadChars s ≠ [] := by
  cases s with
  | key name => simpa [leadChars] using hs.1
  | index position => exact List.cons_ne_nil _ _

/-- A name does not start with the mark of a position. -/
lemma leadChars_key_ne {name : String} (hname : (Segment.key name).Plain) {cs : List Char} :
    name.toList ++ r ≠ '[' :: cs := by
  obtain ⟨c, rest, heq⟩ := List.exists_cons_of_ne_nil (leadChars_ne_nil hname)
  have hname' : name.toList = c :: rest := heq
  have hc : isNameChar c := hname.2 c (hname' ▸ List.mem_cons_self)
  rw [hname', List.cons_append]
  intro h
  have hmark := isNameChar_of_mem_stepMarks '[' (by decide)
  rw [← (List.cons.inj h).1, hc] at hmark
  cases hmark

/-- A leading step ends where its text says. -/
lemma leadChars_append_inj {s s' : Segment} (hs : s.Plain) (hs' : s'.Plain) (hr : MarkLed r)
    (hr' : MarkLed r') (h : leadChars s ++ r = leadChars s' ++ r') : s = s' ∧ r = r' := by
  cases s with
  | key name =>
      cases s' with
      | key name' => exact stepChars_append_inj hs hs' hr hr' (congrArg (List.cons '.') h)
      | index position => exact absurd h (leadChars_key_ne hs)
  | index position =>
      cases s' with
      | key name => exact absurd h.symm (leadChars_key_ne hs')
      | index position' => exact stepChars_append_inj hs hs' hr hr' h

/-- **Paths with one canonical form have the same steps.** -/
theorem canonicalChars_injective (hs : ∀ s ∈ steps, s.Plain) (hs' : ∀ s ∈ steps', s.Plain)
    (h : canonicalChars steps = canonicalChars steps') : steps = steps' := by
  have hne {s : Segment} {rest : List Segment} (hs : ∀ t ∈ s :: rest, t.Plain) :
      canonicalChars (s :: rest) ≠ [] := by
    rw [canonicalChars_cons]
    simp [leadChars_ne_nil (List.forall_mem_cons.mp hs).1]
  cases steps with
  | nil =>
      cases steps' with
      | nil => rfl
      | cons s' rest' => exact absurd h.symm (hne hs')
  | cons s rest =>
      cases steps' with
      | nil => exact absurd h (hne hs)
      | cons s' rest' =>
          rw [canonicalChars_cons, canonicalChars_cons] at h
          obtain ⟨hsplain, hrest⟩ := List.forall_mem_cons.mp hs
          obtain ⟨hsplain', hrest'⟩ := List.forall_mem_cons.mp hs'
          obtain ⟨rfl, htail⟩ :=
            leadChars_append_inj hsplain hsplain' (markLed_steps _) (markLed_steps _) h
          rw [steps_injective hrest hrest' htail]

/-! ## Paths that have been read -/

/-- A path that is seen from the root and whose first step is a position. -/
def StartsWithPosition (p : Path) : Prop :=
  p.scope = .root ∧ ∃ position, p.segments.head? = some (.index position)

/-- The display of a path that starts with a position starts with a bracket, so it is no path. -/
lemma parse_display_of_startsWithPosition {p : Path} (hp : p.WellFormed)
    (h : p.StartsWithPosition) : parse p.display = .error (.invalidExpression p.display) := by
  have htrim := trim_display hp
  obtain ⟨hroot, position, hlead⟩ := h
  obtain ⟨rest, hsegments⟩ : ∃ rest, p.segments = .index position :: rest :=
    List.head?_eq_some_iff.mp hlead
  have hchars : p.display.toList =
      '[' :: (digitsOf position ++ [']'] ++ rest.flatMap stepChars) := by
    simp [display, hroot, canonical, hsegments, canonicalChars_cons, leadChars, bracketed]
  have hnone : parse? p.display = none := by
    rw [parse?, htrim, hchars]
    exact ofChars?_bracket _
  rw [parse, hnone, Text.trimmed, htrim, String.ofList_toList]

/-- **What is written of a path is faithful to it.**  The display of a path that has been read is
read as the same path, except for a path that is seen from the root and starts with a position: that
display is refused.  And two paths that have been read have one canonical form exactly if they have
the same steps. -/
theorem display_faithful {raw raw' : String} {p p' : Path} (h : parse raw = .ok p)
    (h' : parse raw' = .ok p') :
    (¬ p.StartsWithPosition → parse p.display = .ok p) ∧
      (p.StartsWithPosition → parse p.display = .error (.invalidExpression p.display)) ∧
      (p.canonical = p'.canonical ↔ p.segments = p'.segments) := by
  have hp : p.WellFormed := parse?_wellFormed (parse_eq_ok_iff.mp h)
  have hp' : p'.WellFormed := parse?_wellFormed (parse_eq_ok_iff.mp h')
  refine ⟨fun hlead => ?_, parse_display_of_startsWithPosition hp, fun heq => ?_, fun heq => ?_⟩
  · refine parse_eq_ok_iff.mpr (parse?_display hp fun hroot position hposition => ?_)
    exact hlead ⟨hroot, position, hposition⟩
  · exact canonicalChars_injective (fun s hs => (hp.steps s hs).plain)
      (fun s hs => (hp'.steps s hs).plain) (String.ofList_injective heq)
  · rw [canonical, canonical, heq]

/-- Two spellings of the same steps: from the root their display is refused, from a loop element it
is not. -/
theorem display_faithful_positions :
    let p : Path := ⟨.root, [.index 7, .key "a"]⟩
    let p' : Path := ⟨.this, [.index 7, .key "a"]⟩
    parse "007.a" = .ok p ∧ parse " this[+7].a" = .ok p' ∧
      parse "[7].a" = .error (.invalidExpression "[7].a") ∧ parse "this.[7].a" = .ok p' ∧
      p.canonical = p'.canonical := by
  intro p p'
  have h : parse "007.a" = .ok p := parse_eq_ok_iff.mpr (by decide +kernel)
  have h' : parse " this[+7].a" = .ok p' := parse_eq_ok_iff.mpr (by decide +kernel)
  have hlead : ¬ p'.StartsWithPosition := fun hlead => nomatch hlead.1
  obtain ⟨-, hrefused, hsteps⟩ := display_faithful h h'
  obtain ⟨hread, -, -⟩ := display_faithful h' h
  exact ⟨h, h', hrefused ⟨rfl, 7, rfl⟩, hread hlead, hsteps.mpr rfl⟩

end Path

end Docket
