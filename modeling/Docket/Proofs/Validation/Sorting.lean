import Docket.Validation
import Mathlib.Data.List.Induction

/-!
# Problems in order

Two problems of which neither comes before the other read the same (`Diagnostic.before_or_before`).
So sorting loses no problem, except one that reads like an earlier one
(`Diagnostic.mem_sorted_of_new`), and makes none up.
-/

namespace Docket

/-- Of two different texts, one comes before the other. -/
lemma Text.lt_or_lt {a b : String} (h : a ≠ b) : a < b ∨ b < a := by
  by_contra hnot
  obtain ⟨hab, hba⟩ := not_or.mp hnot
  exact h (String.le_antisymm (String.not_lt.mp hba) (String.not_lt.mp hab))

namespace Location

lemma Step.before_or_before {a b : Step} (h : a ≠ b) : a.before b ∨ b.before a := by
  by_cases hnames : ∃ s t, a = .name s ∧ b = .name t
  · obtain ⟨s, t, rfl, rfl⟩ := hnames
    have hst : s ≠ t := fun heq => h (heq ▸ rfl)
    exact (Text.lt_or_lt hst).imp decide_eq_true decide_eq_true
  · cases a <;> cases b <;> simp_all [Step.before]

/-- Of two different lists of steps, one comes before the other. -/
lemma stepsBefore_or_stepsBefore {a b : List Step} (h : a ≠ b) :
    stepsBefore a b ∨ stepsBefore b a := by
  induction a generalizing b with
  | nil =>
      cases b with
      | nil => exact absurd rfl h
      | cons => exact .inl rfl
  | cons x xs ih =>
      cases b with
      | nil => exact .inr rfl
      | cons y ys =>
          rw [stepsBefore, stepsBefore]
          by_cases hxy : x = y
          · subst hxy
            simpa using ih fun hs => h (hs ▸ rfl)
          · simpa [hxy, Ne.symm hxy] using Step.before_or_before hxy

end Location

namespace Diagnostic

variable {d e : Diagnostic} {ds : List Diagnostic}

/-- Of two problems that differ in file, line or wording, one comes before the other. -/
lemma before_or_before
    (h : Location.steps d.file ≠ Location.steps e.file ∨ d.line ≠ e.line ∨ d.message ≠ e.message) :
    d.before e ∨ e.before d := by
  rw [before, before]
  by_cases hsteps : Location.steps d.file = Location.steps e.file
  · by_cases hline : d.line = e.line
    · have hmessage : d.message ≠ e.message := by simpa [hsteps, hline] using h
      simpa [hsteps, hline] using Text.lt_or_lt hmessage
    · rcases Nat.lt_or_gt_of_ne hline with hlt | hgt
      · exact .inl (by simp [hsteps, hline, hlt])
      · exact .inr (by simp [hsteps, Ne.symm hline, hgt])
  · simpa [Location.before, hsteps, Ne.symm hsteps] using Location.stepsBefore_or_stepsBefore hsteps

/-! ## Inserting -/

lemma insert_ne_nil : insert d ds ≠ [] := by
  cases ds with
  | nil => simp [insert]
  | cons e rest =>
      rw [insert]
      split
      · simp
      · split <;> simp

/-- A problem stays among others when one more is put there. -/
lemma mem_insert_of_mem (h : e ∈ ds) : e ∈ insert d ds := by
  induction ds with
  | nil => simp at h
  | cons x rest ih =>
      rw [insert]
      split
      · exact List.mem_cons_of_mem _ h
      · split
        · rcases List.mem_cons.mp h with rfl | h
          · exact List.mem_cons_self ..
          · exact List.mem_cons_of_mem _ (ih h)
        · exact h

/-- A problem that none there reads like gets its place. -/
lemma mem_insert_self (h : ∀ e ∈ ds, d.before e ∨ e.before d) : d ∈ insert d ds := by
  induction ds with
  | nil => simp [insert]
  | cons x rest ih =>
      rw [insert]
      split
      · exact List.mem_cons_self ..
      · rename_i hx
        have hx' : x.before d := (h x (List.mem_cons_self ..)).resolve_left hx
        rw [if_pos hx']
        exact List.mem_cons_of_mem _ (ih fun e he => h e (List.mem_cons_of_mem _ he))

lemma mem_of_mem_insert (h : e ∈ insert d ds) : e = d ∨ e ∈ ds := by
  induction ds with
  | nil => simpa [insert] using h
  | cons x rest ih =>
      rw [insert] at h
      split at h
      · simpa using h
      · split at h
        · rcases List.mem_cons.mp h with rfl | h
          · exact .inr (List.mem_cons_self ..)
          · exact (ih h).imp_right (List.mem_cons_of_mem _)
        · exact .inr h

/-! ## Sorting -/

lemma sorted_concat : sorted (ds ++ [d]) = insert d (sorted ds) := by
  simp [sorted]

@[simp] lemma sorted_eq_nil_iff : sorted ds = [] ↔ ds = [] := by
  induction ds using List.reverseRecOn with
  | nil => simp [sorted]
  | append_singleton ds d _ => simp [sorted_concat, insert_ne_nil]

/-- Sorting makes up no problem. -/
lemma mem_of_mem_sorted (h : e ∈ sorted ds) : e ∈ ds := by
  induction ds using List.reverseRecOn with
  | nil => simp [sorted] at h
  | append_singleton ds d ih =>
      rw [sorted_concat] at h
      rcases mem_of_mem_insert h with rfl | h
      · simp
      · exact List.mem_append_left _ (ih h)

/-- Sorting keeps a problem unless an earlier one reads like it. -/
lemma mem_sorted_of_new {earlier later : List Diagnostic}
    (h : ∀ e ∈ earlier, d.before e ∨ e.before d) : d ∈ sorted (earlier ++ d :: later) := by
  induction later using List.reverseRecOn with
  | nil =>
      rw [sorted_concat]
      exact mem_insert_self fun e he => h e (mem_of_mem_sorted he)
  | append_singleton later x ih =>
      rw [← List.cons_append, ← List.append_assoc, sorted_concat]
      exact mem_insert_of_mem ih

end Diagnostic

end Docket
