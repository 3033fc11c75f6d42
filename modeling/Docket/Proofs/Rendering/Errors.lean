import Docket.Proofs.Rendering.Relation

/-!
# How rendering can fail

A body that has been read can only fail for the data it is rendered with: a filter or a loop meets a
value of the wrong type, or, under strictness, a reference has no value.  `Error.IsData` singles out
these errors.

`FailsOnlyWith` says of a rendering which errors it can end with.  It is a congruence, so that it is
enough to look at filters, references and loops.
-/

namespace Docket

/-- The errors that only data can cause: a value of the wrong type and, under strictness, a
reference without value. -/
def Error.IsData (strictness : Strictness) (e : Error) : Prop :=
  (∃ path expected found, e = .typeMismatch path expected found) ∨
    (strictness = .strict ∧ ∃ path, e = .unresolved path)

/-! ## Filters -/

namespace Filter

lemma onText_error {path : String} {f : List Char → List Char} {v : Value} {e : Error}
    (h : onText path f v = .error e) : ∃ found, e = .typeMismatch path "string" found := by
  cases v <;> cases h <;> exact ⟨_, rfl⟩

lemma lengthOf_error {path : String} {v : Value} {e : Error} (h : lengthOf path v = .error e) :
    ∃ found, e = .typeMismatch path "string, list or map" found := by
  cases v <;> cases h <;> exact ⟨_, rfl⟩

lemma pick_error {path : String} {ofItems : List Value → Option Value}
    {ofChars : List Char → Option Char} {v : Value} {e : Error}
    (h : pick path ofItems ofChars v = .error e) :
    ∃ found, e = .typeMismatch path "list or string" found := by
  cases v <;> cases h <;> exact ⟨_, rfl⟩

lemma joined_error {path : String} {separator : Option Value} {v : Value} {e : Error}
    (h : joined path separator v = .error e) : ∃ found, e = .typeMismatch path "list" found := by
  cases v <;> cases h <;> exact ⟨_, rfl⟩

/-- A filter fails only for a value of the wrong type. -/
lemma apply_error {f : Filter} {v : Value} {args : List Value} {path : String} {e : Error}
    (h : f.apply v args path = .error e) :
    ∃ expected found, e = .typeMismatch path expected found := by
  cases f <;> rw [apply] at h
  case length => exact ⟨_, lengthOf_error h⟩
  case first => exact ⟨_, pick_error h⟩
  case last => exact ⟨_, pick_error h⟩
  case join => exact ⟨_, joined_error h⟩
  case default => cases h
  all_goals exact ⟨_, onText_error h⟩

end Filter

namespace Template

open Rendering

lemma applyFilters_error {label : String} {calls : List FilterCall} {v : Value} {e : Error}
    (h : applyFilters label calls v = .error e) :
    ∃ expected found, e = .typeMismatch label expected found := by
  induction calls generalizing v with
  | nil => cases h
  | cons call rest ih =>
      rw [applyFilters] at h
      split at h
      · rename_i happly
        cases h
        exact Filter.apply_error happly
      · exact ih h

/-! ## Renderings -/

/-- A rendering ends, if it fails, with an error of some kind. -/
def FailsOnlyWith (P : Error → Prop) {α : Type} (r : Rendering α) : Prop :=
  ∀ ws e, (r ws).result = .error e → P e

variable {P : Error → Prop}

lemma failsOnlyWith_lift {α : Type} {r : Except Error α} (h : ∀ e, r = .error e → P e) :
    FailsOnlyWith P (lift r) := fun _ e he => h e he

lemma failsOnlyWith_done {α : Type} (a : α) : FailsOnlyWith P (done a) := nofun

lemma failsOnlyWith_fail {α : Type} {e : Error} (h : P e) :
    FailsOnlyWith P (fail e : Rendering α) := by
  rintro _ _ ⟨⟩
  exact h

lemma FailsOnlyWith.andThen {α β : Type} {r : Rendering α} {f : α → Rendering β}
    (hr : FailsOnlyWith P r) (hf : ∀ a, FailsOnlyWith P (f a)) :
    FailsOnlyWith P (r.andThen f) := by
  intro ws e he
  unfold Rendering.andThen at he
  split at he
  · exact hf _ _ _ he
  · rename_i e' ws' h
    cases he
    exact hr ws e (by rw [h])

lemma failsOnlyWith_congruence :
    Congruence fun {α : Type} (r _ : Rendering α) => FailsOnlyWith P r where
  done := failsOnlyWith_done
  andThen := FailsOnlyWith.andThen

variable (b : Bindings)

lemma noticeOf_error {p : Path} {e : Error} (h : b.noticeOf p = .error e) :
    b.strictness = .strict ∧ e = .unresolved p.display := by
  rw [Bindings.noticeOf] at h
  split at h
  · cases h
  · split at h
    · rename_i hstrict
      cases h
      exact ⟨hstrict, rfl⟩
    · cases h

lemma requiredWarnings_error {e : Error} (h : b.requiredWarnings = .error e) :
    b.strictness = .strict ∧ ∃ path, e = .unresolved path := by
  rw [Bindings.requiredWarnings] at h
  split at h
  · rename_i hstrict _
    cases h
    exact ⟨hstrict, _, rfl⟩
  · cases h
  · cases h

lemma missing_failsOnlyWith (p : Path) :
    FailsOnlyWith (Error.IsData b.strictness) (missing b p) := by
  refine (failsOnlyWith_lift fun e he => ?_).andThen fun
    | some w => nofun
    | none => failsOnlyWith_done ()
  obtain ⟨hstrict, rfl⟩ := noticeOf_error b he
  exact .inr ⟨hstrict, _, rfl⟩

lemma filtered_failsOnlyWith (e : Expression) (v : Value) :
    FailsOnlyWith (Error.IsData b.strictness) (filtered e v) := by
  refine failsOnlyWith_lift fun error herror => ?_
  rcases happly : applyFilters e.path.display e.filters v with error' | v'
  · rw [happly] at herror
    cases herror
    obtain ⟨expected, found, rfl⟩ := applyFilters_error happly
    exact .inl ⟨_, expected, found, rfl⟩
  · rw [happly] at herror
    cases herror

lemma stepsRelated_isData :
    StepsRelated (fun {α : Type} (r _ : Rendering α) =>
      FailsOnlyWith (Error.IsData b.strictness) r) b b where
  cond _ _ := rfl
  expr frames e := by
    rw [renderExpression]
    split
    · exact filtered_failsOnlyWith b e _
    · split
      · exact filtered_failsOnlyWith b e _
      · exact (missing_failsOnlyWith b e.path).andThen fun _ => failsOnlyWith_done _
  loop frames p := by
    rw [loopItems]
    split
    · exact failsOnlyWith_done _
    · exact failsOnlyWith_done _
    · exact failsOnlyWith_fail (.inl ⟨_, _, _, rfl⟩)
    · exact (missing_failsOnlyWith b p).andThen fun _ => failsOnlyWith_done _

/-- Sections whose bodies can be read fail only for the data. -/
lemma renderSections_error {separator : String} {sections : List Section}
    {parsed : List ParsedSection} (hparsed : parseSections sections = .ok parsed) {e : Error}
    (h : renderSections separator sections b = .error e) : e.IsData b.strictness := by
  rw [renderSections, hparsed] at h
  dsimp only at h
  split at h
  · rename_i hrequired
    cases h
    exact .inr (requiredWarnings_error b hrequired)
  · split at h
    · rename_i hrender
      cases h
      have hfails := renderParsed_related failsOnlyWith_congruence (stepsRelated_isData b) parsed
      exact hfails _ _ (by rw [hrender])
    · cases h

lemma parseSections_of_check {sections : List Section}
    (h : ∀ s ∈ sections, check s.body = .ok ()) : ∃ parsed, parseSections sections = .ok parsed := by
  induction sections with
  | nil => exact ⟨[], rfl⟩
  | cons s rest ih =>
      obtain ⟨parsed, hrest⟩ := ih fun t ht => h t (List.mem_cons_of_mem _ ht)
      have hs := h s (List.mem_cons_self ..)
      rw [check] at hs
      split at hs
      · cases hs
      · rename_i nodes hnodes
        exact ⟨⟨s.name, nodes⟩ :: parsed, by rw [parseSections, hnodes, hrest]⟩

end Template

end Docket
