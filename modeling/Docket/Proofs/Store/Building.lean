import Docket.Proofs.Entries.Lookup
import Docket.Store.Basic

/-!
# What building a store comes to

Templates are held by key and fragments by name; `Store.holder?` asks for either by identity.
Adding a definition whose identity is new changes what is held under that identity and nothing else
(`holder?_of_add`), and a definition whose identity is taken is refused (`add_of_holder`).  So a
store holds exactly the definitions that it was built from, each under its identity
(`holds_of_ofDefinitions`).
-/

namespace Docket

/-! ## Ordered entries -/

section InsertOrdered

variable {κ α : Type} {before : κ → κ → Bool} {key : κ} {a : α} {l : List (κ × α)}

@[simp] lemma mem_insertOrdered {x : κ × α} :
    x ∈ insertOrdered before key a l ↔ x = (key, a) ∨ x ∈ l := by
  induction l with
  | nil => simp [insertOrdered]
  | cons e rest ih =>
      rw [insertOrdered]
      split
      · simp
      · simp only [List.mem_cons, ih]
        exact or_left_comm

/-- An entry with a new key is found under it and hides no other entry. -/
lemma lookup_insertOrdered [DecidableEq κ] (hnew : l.lookup key = none) (k : κ) :
    (insertOrdered before key a l).lookup k = if k = key then some a else l.lookup k := by
  induction l with
  | nil => exact lookup_cons_eq_ite k key a []
  | cons e rest ih =>
      obtain ⟨other, b⟩ := e
      rw [lookup_cons_eq_ite] at hnew
      have hne : key ≠ other := fun h => by simp [h] at hnew
      rw [if_neg hne] at hnew
      rw [insertOrdered]
      split
      · rw [lookup_cons_eq_ite]
      · rw [lookup_cons_eq_ite, lookup_cons_eq_ite, ih hnew]
        by_cases hk : k = other
        · simp [hk, hne.symm]
        · simp [hk]

end InsertOrdered

namespace Store

/-! ## Identities -/

/-- The definition that a store finds under an identity. -/
def holder? (s : Store) : Identity → Option Definition
  | .template key => s.template? key
  | .fragment name => s.fragment? name

/-- The store lists a definition under an identity. -/
def Holds (s : Store) (d : Definition) : Identity → Prop
  | .template key => (key, d) ∈ s.templates
  | .fragment name => (name, d) ∈ s.fragments

variable {s t : Store} {d : Definition}

/-- A definition is refused if its identity is taken. -/
lemma add_of_holder {first : Definition} (h : s.holder? d.identity = some first) :
    s.add d = .error (.duplicate d.identity.text first.source d.source) := by
  cases hid : d.identity with
  | template key =>
      rw [hid, holder?] at h
      simp only [add, hid, h, Identity.text]
  | fragment name =>
      rw [hid, holder?] at h
      simp only [add, hid, h, Identity.text]

/-- A definition is added if its identity is new. -/
lemma exists_add (h : s.holder? d.identity = none) : ∃ t, s.add d = .ok t := by
  cases hid : d.identity with
  | template key =>
      rw [hid, holder?] at h
      simp only [add, hid, h]
      exact ⟨_, rfl⟩
  | fragment name =>
      rw [hid, holder?] at h
      simp only [add, hid, h]
      exact ⟨_, rfl⟩

/-- What adding a definition changes in the lists of a store. -/
lemma add_ok (h : s.add d = .ok t) :
    s.holder? d.identity = none ∧
      match d.identity with
      | .template key =>
        t = { s with templates := insertOrdered TemplateKey.before key d s.templates }
      | .fragment name =>
        t = { s with
          fragments := insertOrdered (fun a b => decide (a < b)) name d s.fragments } := by
  cases hid : d.identity with
  | template key =>
      simp only [add, hid] at h
      split at h
      · cases h
      · rename_i hnone
        exact ⟨hnone, (Except.ok.inj h).symm⟩
  | fragment name =>
      simp only [add, hid] at h
      split at h
      · cases h
      · rename_i hnone
        exact ⟨hnone, (Except.ok.inj h).symm⟩

/-- Adding a definition changes what is found under its identity alone. -/
lemma holder?_of_add (h : s.add d = .ok t) (i : Identity) :
    t.holder? i = if i = d.identity then some d else s.holder? i := by
  obtain ⟨hnew, ht⟩ := add_ok h
  cases hid : d.identity with
  | template key =>
      rw [hid] at hnew ht
      subst ht
      cases i with
      | template k => simpa [holder?, template?] using lookup_insertOrdered hnew k
      | fragment n => simp [holder?, fragment?]
  | fragment name =>
      rw [hid] at hnew ht
      subst ht
      cases i with
      | template k => simp [holder?, template?]
      | fragment n => simpa [holder?, fragment?] using lookup_insertOrdered hnew n

/-- Adding a definition lists it under its identity and nothing else. -/
lemma holds_of_add (h : s.add d = .ok t) (e : Definition) (i : Identity) :
    t.Holds e i ↔ (i = d.identity ∧ e = d) ∨ s.Holds e i := by
  obtain ⟨-, ht⟩ := add_ok h
  cases hid : d.identity with
  | template key =>
      rw [hid] at ht
      subst ht
      cases i <;> simp [Holds]
  | fragment name =>
      rw [hid] at ht
      subst ht
      cases i <;> simp [Holds]

/-! ## Lists of definitions -/

/-- A store lists the definitions that were added to it, each under its identity. -/
lemma holds_of_foldlM_add {ds : List Definition} (h : ds.foldlM add s = .ok t) (e : Definition)
    (i : Identity) : t.Holds e i ↔ (e ∈ ds ∧ i = e.identity) ∨ s.Holds e i := by
  induction ds generalizing s with
  | nil =>
      cases h
      simp
  | cons d ds ih =>
      rw [List.foldlM_cons] at h
      cases hadd : s.add d with
      | error _ => simp [hadd, bind, Except.bind] at h
      | ok s' =>
          simp only [hadd, bind, Except.bind] at h
          rw [ih h, holds_of_add hadd, List.mem_cons]
          constructor
          · rintro (⟨he, hi⟩ | ⟨hi, rfl⟩ | hs)
            · exact .inl ⟨.inr he, hi⟩
            · exact .inl ⟨.inl rfl, hi⟩
            · exact .inr hs
          · rintro (⟨rfl | he, hi⟩ | hs)
            · exact .inr (.inl ⟨hi, rfl⟩)
            · exact .inl ⟨he, hi⟩
            · exact .inr (.inr hs)

/-- **A store holds the definitions that it was built from**, each under its identity. -/
lemma holds_of_ofDefinitions {ds : List Definition} (h : ofDefinitions ds = .ok t) (e : Definition)
    (i : Identity) : t.Holds e i ↔ e ∈ ds ∧ i = e.identity := by
  have hempty : ¬ Holds {} e i := by cases i <;> simp [Holds]
  simpa [hempty] using holds_of_foldlM_add h e i

end Store

end Docket
