import Docket.Proofs.Rendering.Relation
import Docket.Proofs.Template.Grammar
import Mathlib.Data.List.Basic

/-!
# Bodies joined end to end

Two bodies that can be read can be read as one, unless a brace at the end of the first would run
into the second.  Tags end within the body in which they start, and so do blocks, so only one thing
can change at the seam: a text at the end of the first and one at the start of the second become one
text (`Cuts.append`, `parse_append`).

Rendering does not see that.  Nodes are rendered one after another, with nothing but the warnings
handed on (`renderNodes_append`), so the joined body is rendered as the first one and then the second
(`renderBody_append`).
-/

namespace Docket.Template

open Rendering

/-! ## Cutting across the seam -/

/-- What two bodies joined end to end consist of: what the one consists of and what the other does,
but for a text that runs over the seam.  This is said of pieces and of nodes. -/
inductive Joined {α β : Type} [Append β] (text : β → α) : List α → List α → List α → Prop where
  | apart (before after : List α) : Joined text before after (before ++ after)
  | across (before after : List α) (s s' : β) :
    Joined text (before ++ [text s]) (text s' :: after) (before ++ text (s ++ s') :: after)

lemma Joined.append_left {α β : Type} [Append β] {text : β → α} {before after joined : List α}
    (h : Joined text before after joined) (front : List α) :
    Joined text (front ++ before) after (front ++ joined) := by
  cases h with
  | apart =>
      rw [← List.append_assoc]
      exact .apart (front ++ before) after
  | across before after s s' =>
      rw [← List.append_assoc, ← List.append_assoc]
      exact .across (front ++ before) after s s'

variable {cs cs' : List Char} {pieces pieces' : List Piece}

lemma joined_ofText (cs cs' : List Char) (after : List Piece) :
    Joined Piece.text (Piece.ofText cs) (Piece.ofText cs' ++ after)
      (Piece.ofText (cs ++ cs') ++ after) := by
  by_cases hcs : cs = []
  · subst hcs
    exact .apart [] _
  · by_cases hcs' : cs' = []
    · subst hcs'
      rw [List.append_nil]
      exact .apart _ _
    · have hacross : Joined Piece.text ([] ++ [.text cs]) (.text cs' :: after)
          ([] ++ .text (cs ++ cs') :: after) := .across [] after cs cs'
      simpa [Piece.ofText, hcs, hcs'] using hacross

/-- A text before a body goes to what the body starts with. -/
lemma Cuts.append_of_text (hcs : ¬ openingBraces <:+: cs) (hseam : cs.getLast? ≠ some '\x7b')
    (h : Cuts cs' pieces') :
    ∃ joined, Joined Piece.text (Piece.ofText cs) pieces' joined ∧ Cuts (cs ++ cs') joined := by
  cases h with
  | text hcs' =>
      refine ⟨_, ?_, .text (not_pair_append hcs hcs' (.inl hseam))⟩
      simpa using joined_ofText cs cs' []
  | @tag before inner rest pieces hbefore hinner hrest =>
      have hopening : ¬ openingBraces <:+: cs ++ before ++ ['\x7b'] := by
        rw [List.append_assoc]
        exact not_pair_append hcs hbefore (.inl hseam)
      refine ⟨_, joined_ofText cs before _, ?_⟩
      simpa using Cuts.tag hopening hinner hrest

/-- **Bodies joined end to end are cut as each by itself**, if no brace at the end of the first runs
into the second. -/
lemma Cuts.append (h : Cuts cs pieces) (h' : Cuts cs' pieces') (hseam : cs.getLast? ≠ some '\x7b') :
    ∃ joined, Joined Piece.text pieces pieces' joined ∧ Cuts (cs ++ cs') joined := by
  induction h with
  | text hcs => exact Cuts.append_of_text hcs hseam h'
  | @tag before inner rest pieces hbefore hinner _ ih =>
      have hrest : rest.getLast? ≠ some '\x7b' := fun hlast => hseam (by simp [hlast])
      obtain ⟨joined, hjoined, hcuts⟩ := ih hrest
      refine ⟨Piece.ofText before ++ .tag inner :: joined, ?_, ?_⟩
      · have hfront := hjoined.append_left (Piece.ofText before ++ [.tag inner])
        rwa [List.append_assoc, List.append_assoc, List.singleton_append,
          List.singleton_append] at hfront
      · simpa using Cuts.tag hbefore hinner hcuts

/-! ## Reading across the seam -/

namespace Builder

lemma run_append {b b' : Builder} {tokens more : List Token}
    (h : b.run (tokens ++ more) = .ok b') : ∃ b₁, b.run tokens = .ok b₁ ∧ b₁.run more = .ok b' := by
  induction tokens generalizing b with
  | nil => exact ⟨b, rfl, h⟩
  | cons token rest ih =>
      rw [List.cons_append, run] at h
      split at h
      · cases h
      · rename_i b₁ htake
        rw [run_cons_of_take htake]
        exact ih h

end Builder

/-- A text at the end stands outside of blocks. -/
lemma Derives.of_append_text {tokens : List Token} {s : String} {nodes : List Node}
    (h : Derives (tokens ++ [.text s]) nodes) :
    ∃ front, nodes = front ++ [.text s] ∧ Derives tokens front := by
  obtain ⟨b, hrun, hfinish⟩ := Builder.run_empty_iff.mpr h
  obtain ⟨b₁, hrun₁, htext⟩ := Builder.run_append hrun
  obtain rfl : b₁.add (.text s) = b := Except.ok.inj htext
  match b₁, hrun₁, hfinish with
  | ⟨front, []⟩, hrun₁, hfinish =>
      cases hfinish
      exact ⟨front.reverse, by simp [Builder.add], Builder.run_empty_iff.mp ⟨_, hrun₁, rfl⟩⟩

lemma Derives.of_cons_text {tokens : List Token} {s : String} {nodes : List Node}
    (h : Derives (.text s :: tokens) nodes) :
    ∃ rest, nodes = .text s :: rest ∧ Derives tokens rest := by
  cases h with
  | text h => exact ⟨_, rfl, h⟩

lemma forall₂_append_left {α β : Type} {R : α → β → Prop} {xs xs' : List α} {ys : List β} :
    List.Forall₂ R (xs ++ xs') ys ↔
      ∃ zs zs', List.Forall₂ R xs zs ∧ List.Forall₂ R xs' zs' ∧ ys = zs ++ zs' := by
  induction xs generalizing ys with
  | nil => simp
  | cons x xs ih => simp [List.forall₂_cons_left_iff, ih]; grind

/-- What pieces mean carries over to pieces joined end to end, and so does the tree they derive. -/
lemma Joined.derives {joined : List Piece} (h : Joined Piece.text pieces pieces' joined)
    {tokens tokens' : List Token} (hmeans : List.Forall₂ Piece.Means pieces tokens)
    (hmeans' : List.Forall₂ Piece.Means pieces' tokens') {nodes nodes' : List Node}
    (hderives : Derives tokens nodes) (hderives' : Derives tokens' nodes') :
    ∃ all merged, List.Forall₂ Piece.Means joined all ∧ Derives all merged ∧
      Joined Node.text nodes nodes' merged := by
  cases h with
  | apart =>
      exact ⟨_, _, List.rel_append hmeans hmeans', hderives.append hderives', .apart _ _⟩
  | across before after cs cs' =>
      -- the texts at the seam stand outside of blocks, so one text can take their place
      obtain ⟨front, last, hfront, hlast, rfl⟩ := forall₂_append_left.mp hmeans
      obtain ⟨_, rest, ⟨⟩, hrest, rfl⟩ := List.forall₂_cons_left_iff.mp hmeans'
      obtain ⟨_, _, ⟨⟩, ⟨⟩, rfl⟩ := List.forall₂_cons_left_iff.mp hlast
      obtain ⟨ahead, rfl, hahead⟩ := hderives.of_append_text
      obtain ⟨behind, rfl, hbehind⟩ := hderives'.of_cons_text
      refine ⟨_, _, List.rel_append hfront (.cons (.text (cs ++ cs')) hrest),
        hahead.append hbehind.text, ?_⟩
      rw [String.ofList_append]
      exact .across ahead behind _ _

/-- **Bodies joined end to end are read as each by itself**, if no brace at the end of the first runs
into the second. -/
lemma parse_append {first second : String} {nodes nodes' : List Node}
    (h : parse first = .ok nodes) (h' : parse second = .ok nodes')
    (hseam : first.toList.getLast? ≠ some '\x7b') :
    ∃ merged, parse (first ++ second) = .ok merged ∧ Joined Node.text nodes nodes' merged := by
  obtain ⟨tokens, ⟨pieces, hcuts, hmeans⟩, hderives⟩ := parse_eq_ok_iff_derives.mp h
  obtain ⟨tokens', ⟨pieces', hcuts', hmeans'⟩, hderives'⟩ := parse_eq_ok_iff_derives.mp h'
  obtain ⟨joined, hjoined, hcut⟩ := hcuts.append hcuts' hseam
  obtain ⟨all, merged, hall, hmerged, hnodes⟩ :=
    hjoined.derives hmeans hmeans' hderives hderives'
  refine ⟨merged, parse_eq_ok_iff_derives.mpr ⟨all, ⟨joined, ?_, hall⟩, hmerged⟩, hnodes⟩
  rwa [String.toList_append]

/-! ## Rendering across the seam -/

variable (b : Bindings) (frames : List Frame)

/-- **Nodes are rendered one after another.** -/
lemma renderNodes_append (nodes nodes' : List Node) :
    renderNodes b frames (nodes ++ nodes') =
      (renderNodes b frames nodes).andThen fun text =>
        (renderNodes b frames nodes').andThen fun text' => done (text ++ text') := by
  induction nodes with
  | nil =>
      rw [renderNodes, done_andThen]
      exact (andThen_done _).symm
  | cons node rest ih =>
      simp only [List.cons_append, renderNodes, ih, andThen_assoc, done_andThen, List.append_assoc]

/-- A text over the seam is rendered as its two parts. -/
lemma renderNodes_joined {nodes nodes' merged : List Node}
    (h : Joined Node.text nodes nodes' merged) :
    renderNodes b frames merged = renderNodes b frames (nodes ++ nodes') := by
  cases h with
  | apart => rfl
  | across before after s s' =>
      rw [List.append_assoc, renderNodes_append, renderNodes_append, List.singleton_append]
      simp only [renderNodes, renderNode, done_andThen, andThen_assoc, String.toList_append,
        List.append_assoc]

/-- A body that has been read is rendered as its nodes. -/
lemma renderBody_of_parse {body : String} {nodes : List Node} (h : parse body = .ok nodes) :
    renderBody b body = (renderNodes b [] nodes).andThen fun text => done (String.ofList text) := by
  rw [renderBody, h]
  rfl

/-- **A body joined from two is rendered as the first and then the second.**  If both can be read,
and the first does not end with an opening brace, the whole can be read.  It is rendered by rendering
the first and then the second, with the warnings of the first handed on: the text is that of the
first and that of the second behind it, and a failure is that of the first, or else that of the
second. -/
theorem renderBody_append {first second : String} {nodes nodes' : List Node}
    (h : parse first = .ok nodes) (h' : parse second = .ok nodes')
    (hseam : first.toList.getLast? ≠ some '\x7b') :
    (∃ merged, parse (first ++ second) = .ok merged) ∧
      renderBody b (first ++ second) =
        (renderBody b first).andThen fun text =>
          (renderBody b second).andThen fun text' => done (text ++ text') := by
  obtain ⟨merged, hmerged, hjoined⟩ := parse_append h h' hseam
  refine ⟨⟨merged, hmerged⟩, ?_⟩
  rw [renderBody_of_parse b hmerged, renderBody_of_parse b h, renderBody_of_parse b h',
    renderNodes_joined b [] hjoined, renderNodes_append]
  simp only [andThen_assoc, done_andThen, String.ofList_append]

/-- A reference, and a single brace behind it. -/
def nameText : String := "\x7b\x7b name \x7d\x7d \x7d"

lemma parse_nameText :
    parse nameText = .ok [.expr ⟨⟨.root, [.key "name"]⟩, []⟩, .text " \x7d"] := by rfl

/-- A single brace, and a condition and a reference behind it. -/
def conditionText : String :=
  "\x7b \x7b\x7b#if name\x7d\x7dx\x7b\x7b/if\x7d\x7d\x7b\x7b name \x7d\x7d"

lemma parse_conditionText :
    parse conditionText =
      .ok [.text "\x7b ", .block .cond ⟨.root, [.key "name"]⟩ [.text "x"] [],
        .expr ⟨⟨.root, [.key "name"]⟩, []⟩] := by rfl

/-- Single braces on both sides of the seam, and a reference without value before and behind it. -/
theorem renderBody_append_braces :
    let b := Bindings.bind (.map []) [] .lenient
    parse nameText = .ok [.expr ⟨⟨.root, [.key "name"]⟩, []⟩, .text " \x7d"] ∧
      parse conditionText =
        .ok [.text "\x7b ", .block .cond ⟨.root, [.key "name"]⟩ [.text "x"] [],
          .expr ⟨⟨.root, [.key "name"]⟩, []⟩] ∧
      nameText.toList.getLast? ≠ some '\x7b' ∧
      (∃ merged, parse (nameText ++ conditionText) = .ok merged) ∧
      renderBody b (nameText ++ conditionText) =
        (renderBody b nameText).andThen fun text =>
          (renderBody b conditionText).andThen fun text' => done (text ++ text') := by
  intro b
  have hseam : nameText.toList.getLast? ≠ some '\x7b' := by decide +kernel
  exact ⟨parse_nameText, parse_conditionText, hseam,
    renderBody_append b parse_nameText parse_conditionText hseam⟩

end Docket.Template
