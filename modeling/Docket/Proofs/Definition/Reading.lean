import Docket.Definition.Read
import Mathlib.Data.List.Basic

/-!
# Definitions that can be read

A text is read as a definition whose identity holds no slash, or is reported as a fault of its file
with a line and a wording (`read_cases`).  Without slashes, the text of an identity tells which one
it is (`TemplateKey.text_injective`).
-/

namespace Docket

/-! ## Identities without slashes -/

/-- No part of an identity holds a slash. -/
def Identity.Plain : Identity → Prop
  | .template key =>
    '/' ∉ key.platform.toList ∧ '/' ∉ key.documentType.toList ∧ '/' ∉ key.techStack.toList
  | .fragment name => '/' ∉ name.toList

/-- What stands before a mark and behind it is determined by the whole, if the mark does not occur
before. -/
lemma append_mark_inj {α : Type} {mark : α} {a b x y : List α} (ha : mark ∉ a) (hb : mark ∉ b)
    (h : a ++ mark :: x = b ++ mark :: y) : a = b ∧ x = y := by
  induction a generalizing b with
  | nil =>
      cases b with
      | nil => exact ⟨rfl, (List.cons.inj h).2⟩
      | cons c b => exact absurd (List.cons.inj h).1 (List.ne_of_not_mem_cons hb)
  | cons c a ih =>
      cases b with
      | nil => exact absurd (List.cons.inj h).1.symm (List.ne_of_not_mem_cons ha)
      | cons d b =>
          obtain ⟨hcd, hrest⟩ := List.cons.inj h
          obtain ⟨rfl, rfl⟩ :=
            ih (List.not_mem_of_not_mem_cons ha) (List.not_mem_of_not_mem_cons hb) hrest
          exact ⟨by rw [hcd], rfl⟩

/-- Without slashes in it, a key is told by its text. -/
lemma TemplateKey.text_injective {k l : TemplateKey} (hk : (Identity.template k).Plain)
    (hl : (Identity.template l).Plain) (h : k.text = l.text) : k = l := by
  obtain ⟨hk1, hk2, -⟩ := hk
  obtain ⟨hl1, hl2, -⟩ := hl
  have htext := congrArg String.toList h
  simp only [text, String.toList_append, List.append_assoc] at htext
  obtain ⟨hplatform, hrest⟩ := append_mark_inj hk1 hl1 htext
  obtain ⟨htype, hstack⟩ := append_mark_inj hk2 hl2 hrest
  cases k
  cases l
  simp_all [String.toList_inj]

namespace Definition

/-! ## Reading -/

/-- A check passes, or it finds a fault of the file. -/
def Passes (file : String) (check : Except Error Unit) (condition : Prop) : Prop :=
  check = .ok () ∧ condition ∨ ∃ line problem, check = .error (.malformed file line problem)

lemma checkName_passes (file text key name : String) :
    Passes file (checkName file text key name) ('/' ∉ name.toList) := by
  rw [checkName]
  split
  · exact .inr ⟨_, _, rfl⟩
  · rename_i hgood
    exact .inl ⟨rfl, fun hslash => hgood (by simp [isBadName, hslash])⟩

lemma checkIdentity_passes (file text : String) (i : Identity) :
    Passes file (checkIdentity file text i) i.Plain := by
  cases i with
  | fragment name => exact checkName_passes file text "fragment" name
  | template key =>
      rw [checkIdentity]
      rcases checkName_passes file text "platform" key.platform with
        ⟨hok, hplatform⟩ | ⟨line, problem, herror⟩
      · rcases checkName_passes file text "documentType" key.documentType with
          ⟨hok', htype⟩ | ⟨line, problem, herror⟩
        · rcases checkName_passes file text "techStack" key.techStack with
            ⟨hok'', hstack⟩ | ⟨line, problem, herror⟩
          · exact .inl ⟨by simp only [hok, hok', hok''], hplatform, htype, hstack⟩
          · exact .inr ⟨line, problem, by simp only [hok, hok', herror]⟩
        · exact .inr ⟨line, problem, by simp only [hok, herror]⟩
      · exact .inr ⟨line, problem, by simp only [herror]⟩

lemma checkSections_passes (file text : String) (sections : List Section) :
    Passes file (checkSections file text sections)
      (∀ s ∈ sections, Text.allBlank s.name = false) := by
  rw [checkSections]
  split
  · exact .inr ⟨_, _, rfl⟩
  · rename_i hnone
    exact .inl ⟨rfl, by simpa using hnone⟩

/-- Reading a text comes to a definition that has passed its checks, or to a fault of the file. -/
lemma read_cases [Objections] (file text : String) :
    (∃ d, read file text = .ok d ∧ d.identity.Plain ∧
        ∀ s ∈ d.sections, Text.allBlank s.name = false) ∨
      ∃ line problem, read file text = .error (.malformed file line problem) := by
  rw [read]
  split
  · exact .inr ⟨_, _, rfl⟩
  · exact .inr ⟨_, _, rfl⟩
  · split
    · exact .inr ⟨_, _, rfl⟩
    · dsimp only
      split
      · split
        · exact .inr ⟨_, _, rfl⟩
        · rename_i d _
          rcases checkIdentity_passes file text d.identity with
            ⟨hok, hplain⟩ | ⟨line, problem, herror⟩
          · rcases checkSections_passes file text d.sections with
              ⟨hok', hnames⟩ | ⟨line, problem, herror⟩
            · exact .inl ⟨d, by simp only [hok, hok'], hplain, hnames⟩
            · exact .inr ⟨line, problem, by simp only [hok, herror]⟩
          · exact .inr ⟨line, problem, by simp only [herror]⟩
      · exact .inr ⟨_, _, rfl⟩

end Definition

end Docket
