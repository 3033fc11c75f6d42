import Docket.Proofs.Template.Paths
import Docket.Template.Render

/-!
# Relating two renderings

Two renderings of the same nodes run through the same steps, so whatever relates their steps relates
the whole.  `Rendering.Congruence` is what a relation on renderings has to satisfy for that: it holds
of results without warnings, and of one computation after another if it holds of both parts.
`StepsRelated` is what is asked of the two bindings, `StepsRelatedOn` the same for some paths only.
Most relations only have to be checked where a path has no value (`stepsRelatedOn_of_missing`).
`renderNodes_related` and `renderParsed_related` carry such a relation over trees of nodes and over
sections; `renderNodes_relatedOn` and `renderParsed_relatedOn` ask for it at the paths that occur.

A property of one rendering is the case in which a rendering is related to itself.
-/

namespace Docket.Template

open Rendering

/-! ## One computation after another -/

namespace Rendering

variable {α β γ : Type}

lemma done_andThen (a : α) (f : α → Rendering β) : (done a).andThen f = f a := rfl

lemma andThen_done (r : Rendering α) : r.andThen done = r := by
  funext ws
  rcases h : r ws with ⟨_ | _, _⟩ <;> simp only [andThen, h, done]

lemma andThen_assoc (r : Rendering α) (f : α → Rendering β) (g : β → Rendering γ) :
    (r.andThen f).andThen g = r.andThen fun a => (f a).andThen g := by
  funext ws
  rcases h : r ws with ⟨_ | _, _⟩ <;> simp only [andThen, h]

variable {r : Rendering α} {f : α → Rendering β} {ws ws' : List String}

lemma andThen_of_ok {a : α} (h : r ws = ⟨.ok a, ws'⟩) : r.andThen f ws = f a ws' := by
  simp only [andThen, h]

lemma andThen_of_error {e : Error} (h : r ws = ⟨.error e, ws'⟩) :
    r.andThen f ws = ⟨.error e, ws'⟩ := by
  simp only [andThen, h]

end Rendering

/-! ## Relations between renderings -/

variable {R : ∀ {α : Type}, Rendering α → Rendering α → Prop}

/-- A relation on renderings that running one after the other keeps. -/
structure Rendering.Congruence (R : ∀ {α : Type}, Rendering α → Rendering α → Prop) : Prop where
  done : ∀ {α : Type} (a : α), R (done a) (done a)
  andThen : ∀ {α β : Type} {r s : Rendering α} {f g : α → Rendering β},
    R r s → (∀ a, R (f a) (g a)) → R (r.andThen f) (s.andThen g)

/-- The steps of rendering under two bindings are related, as far as they ask for paths that are
`named`: they take the same conditions, and their expressions and loops are related. -/
structure StepsRelatedOn (R : ∀ {α : Type}, Rendering α → Rendering α → Prop) (b b' : Bindings)
    (named : Path → Prop) : Prop where
  cond : ∀ frames p, named p →
    (resolve b frames p).any Value.isTruthy = (resolve b' frames p).any Value.isTruthy
  expr : ∀ frames e, named e.path → R (renderExpression b frames e) (renderExpression b' frames e)
  loop : ∀ frames p, named p → R (loopItems b frames p) (loopItems b' frames p)

/-- The steps of rendering under two bindings are related: they take the same conditions, and their
expressions and loops are related. -/
structure StepsRelated (R : ∀ {α : Type}, Rendering α → Rendering α → Prop) (b b' : Bindings) :
    Prop where
  cond : ∀ frames p,
    (resolve b frames p).any Value.isTruthy = (resolve b' frames p).any Value.isTruthy
  expr : ∀ frames e, R (renderExpression b frames e) (renderExpression b' frames e)
  loop : ∀ frames p, R (loopItems b frames p) (loopItems b' frames p)

variable {b b' : Bindings} {named : Path → Prop}

lemma StepsRelated.on (h : StepsRelated R b b') : StepsRelatedOn R b b' fun _ => True where
  cond frames p _ := h.cond frames p
  expr frames e _ := h.expr frames e
  loop frames p _ := h.loop frames p

/-- Steps are related if values are found alike, what is the same without warnings is related, and so
is what happens to paths without value. -/
lemma stepsRelatedOn_of_missing (hR : Congruence R)
    (hlift : ∀ {α : Type} (r : Except Error α), R (lift r) (lift r))
    (hresolve : ∀ frames p, named p → resolve b frames p = resolve b' frames p)
    (hmissing : ∀ p, named p → R (missing b p) (missing b' p)) : StepsRelatedOn R b b' named where
  cond frames p hp := by rw [hresolve frames p hp]
  expr frames e he := by
    rw [renderExpression, renderExpression, hresolve frames e.path he]
    split
    · exact hlift _
    · split
      · exact hlift _
      · exact hR.andThen (hmissing e.path he) fun _ => hR.done _
  loop frames p hp := by
    rw [loopItems, loopItems, hresolve frames p hp]
    split
    · exact hR.done _
    · exact hR.done _
    · exact hlift (.error _)
    · exact hR.andThen (hmissing p hp) fun _ => hR.done _

lemma StepsRelatedOn.everywhere (h : StepsRelatedOn R b b' fun _ => True) : StepsRelated R b b' where
  cond frames p := h.cond frames p trivial
  expr frames e := h.expr frames e trivial
  loop frames p := h.loop frames p trivial

/-! ## Nodes and sections -/

lemma renderRounds_related (hR : Congruence R) {round round' : Frame → Rendering (List Char)}
    (h : ∀ frame, R (round frame) (round' frame)) (length index : Nat) (items : List Value) :
    R (renderRounds round length index items) (renderRounds round' length index items) := by
  induction items generalizing index with
  | nil => exact hR.done []
  | cons item items ih =>
      exact hR.andThen (h _) fun _ => hR.andThen (ih _) fun _ => hR.done _

mutual

lemma renderNode_relatedOn (hR : Congruence R) (h : StepsRelatedOn R b b' named)
    (frames : List Frame) : (node : Node) → (∀ p ∈ node.paths, named p) →
      R (renderNode b frames node) (renderNode b' frames node)
  | .text s, _ => by
      rw [renderNode, renderNode]
      exact hR.done _
  | .expr e, hnamed => by
      rw [renderNode, renderNode]
      exact h.expr frames e (hnamed e.path List.mem_cons_self)
  | .block .cond path body otherwise, hnamed => by
      simp only [Node.paths, List.forall_mem_cons, List.forall_mem_append] at hnamed
      obtain ⟨hpath, hbody, hotherwise⟩ := hnamed
      rw [renderNode, renderNode, h.cond frames path hpath]
      split
      · exact renderNodes_relatedOn hR h frames body hbody
      · exact renderNodes_relatedOn hR h frames otherwise hotherwise
  | .block .loop path body otherwise, hnamed => by
      simp only [Node.paths, List.forall_mem_cons, List.forall_mem_append] at hnamed
      obtain ⟨hpath, hbody, hotherwise⟩ := hnamed
      rw [renderNode, renderNode]
      refine hR.andThen (h.loop frames path hpath) fun items => ?_
      split
      · exact renderNodes_relatedOn hR h frames otherwise hotherwise
      · exact renderRounds_related hR
          (fun frame => renderNodes_relatedOn hR h (frame :: frames) body hbody) _ _ _

/-- What relates the steps of rendering, as far as they ask for the paths of nodes, relates the
rendering of the nodes. -/
lemma renderNodes_relatedOn (hR : Congruence R) (h : StepsRelatedOn R b b' named)
    (frames : List Frame) : (nodes : List Node) → (∀ p ∈ pathsOf nodes, named p) →
      R (renderNodes b frames nodes) (renderNodes b' frames nodes)
  | [], _ => by
      rw [renderNodes, renderNodes]
      exact hR.done []
  | node :: rest, hnamed => by
      simp only [pathsOf, List.forall_mem_append] at hnamed
      rw [renderNodes, renderNodes]
      exact hR.andThen (renderNode_relatedOn hR h frames node hnamed.1) fun _ =>
        hR.andThen (renderNodes_relatedOn hR h frames rest hnamed.2) fun _ => hR.done _

end

/-- What relates the steps of rendering relates the rendering of nodes. -/
lemma renderNodes_related (hR : Congruence R) (h : StepsRelated R b b') (frames : List Frame)
    (nodes : List Node) : R (renderNodes b frames nodes) (renderNodes b' frames nodes) :=
  renderNodes_relatedOn hR h.on frames nodes fun _ _ => trivial

/-- What relates the rendering of the nodes of sections relates the rendering of the sections. -/
lemma renderParsed_relatedOn (hR : Congruence R) (h : StepsRelatedOn R b b' named)
    {sections : List ParsedSection} (hnamed : ∀ s ∈ sections, ∀ p ∈ pathsOf s.nodes, named p) :
    R (renderParsed b sections) (renderParsed b' sections) := by
  induction sections with
  | nil => exact hR.done []
  | cons s rest ih =>
      obtain ⟨hs, hrest⟩ := List.forall_mem_cons.mp hnamed
      exact hR.andThen (renderNodes_relatedOn hR h [] s.nodes hs) fun _ =>
        hR.andThen (ih hrest) fun _ => hR.done _

/-- What relates the steps of rendering relates the rendering of sections. -/
lemma renderParsed_related (hR : Congruence R) (h : StepsRelated R b b')
    (sections : List ParsedSection) : R (renderParsed b sections) (renderParsed b' sections) :=
  renderParsed_relatedOn hR h.on fun _ _ _ _ => trivial

end Docket.Template
