import Docket.Context
import Docket.Proofs.Bindings.Lookup
import Docket.Proofs.Template.Paths
import Docket.Template.Render

/-!
# A loop shows its body in the context of each element

Inside a loop, names are looked for in the enclosing elements first and in the bindings last.  The
outermost element can be left out of this if the context takes in its keys instead
(`Context.within`): what is found by passing an element by is then found in the bindings
(`resolve_within`).  Only what a round itself is asked for, its element, its number, whether it is
the first or the last, is lost with the frame, so the law is about bodies that ask only rounds of
their own loops (`outerPathsOf`).

`SeenThrough` is this relation between bindings, and `renderNodes_seenThrough` carries it through
loops and conditions of any depth.  For the loop as a whole it means that its rounds are renderings
of its body in contexts of their own, one after another (`renderNode_loop`).
-/

namespace Docket

open Numeral Docket.Path

/-! ## Named keys -/

namespace Bindings

/-- Whether all keys of a map are names that do not consist of digits. -/
def namedKeys (entries : List (String × Value)) : Bool :=
  entries.all fun e => e.1.toList.all isNameChar && !e.1.toList.all isDigit

lemma plainKeys_of_namedKeys {entries : List (String × Value)} (h : namedKeys entries) :
    plainKeys entries := by
  refine List.all_eq_true.mpr fun e he => ?_
  have hnamed := List.all_eq_true.mp h e he
  simp only [Bool.and_eq_true, Bool.not_eq_true'] at hnamed
  obtain ⟨hname, hdigits⟩ := hnamed
  have hne : e.1 ≠ "" := by
    intro hempty
    rw [hempty] at hdigits
    cases hdigits
  simp [isPlainKey, hne, hname, hdigits]

lemma lookup_digits {entries : List (String × Value)} (h : namedKeys entries) (position : Nat) :
    Value.lookup (String.ofList (digitsOf position)) entries = none := by
  refine Value.lookup_eq_none_iff.mpr fun e he heq => ?_
  have hnamed := List.all_eq_true.mp h e he
  have hdigits : (digitsOf position).all isDigit :=
    List.all_eq_true.mpr fun _ => isDigit_of_mem_digitsOf
  simp [← heq, hdigits] at hnamed

end Bindings

open Bindings

/-- A value as data is held, all of whose keys are names that do not consist of digits. -/
structure Value.Named (v : Value) : Prop where
  settled : v.settled = v
  keys : v.everyMap namedKeys

namespace Value.Named

variable {v w : Value}

lemma item {items : List Value} (h : (Value.list items).Named) {item : Value}
    (hitem : item ∈ items) : item.Named :=
  ⟨settled_list_iff.mp h.settled item hitem, everyMap_list_iff.mp h.keys item hitem⟩

lemma step {s : Segment} (h : v.Named) (hstep : v.step s = some w) : w.Named := by
  cases v with
  | map entries =>
      rw [step_map] at hstep
      have hmem := mem_of_lookup_eq_some hstep
      exact ⟨(settled_map_iff.mp h.settled).2 _ hmem, (everyMap_map_iff.mp h.keys).2 _ hmem⟩
  | list items =>
      cases s with
      | key name => cases hstep
      | index position => exact h.item (List.mem_of_getElem? hstep)
  | _ => cases s <;> cases hstep

/-- What walking finds in named data is named. -/
lemma walk {steps : List Segment} (h : v.Named) (hwalk : v.walk steps = some w) : w.Named := by
  induction steps generalizing v with
  | nil =>
      cases hwalk
      exact h
  | cons s rest ih =>
      obtain ⟨u, hstep, hrest⟩ := Option.bind_eq_some_iff.mp hwalk
      exact ih (h.step hstep) hrest

lemma plain (h : v.Named) : v.everyMap plainKeys :=
  v.everyMap_imp (fun _ => plainKeys_of_namedKeys) h.keys

end Value.Named

/-! ## Contexts of rounds -/

/-- The context with the keys of an element in the place of its own; an element that is not a map
changes nothing. -/
def Context.within (c : Context) (element : Value) : Context :=
  match element with
  | .map entries => ⟨Value.setKeys entries c.entries⟩
  | _ => c

namespace Context

variable {c : Context} {element : Value}

lemma named_within (hc : c.value.Named) (helement : element.Named) :
    (c.within element).value.Named := by
  cases element with
  | map entries =>
      obtain ⟨hincreasing, hsettled⟩ := Value.settled_map_iff.mp hc.settled
      obtain ⟨hkeys, hbelow⟩ := Value.everyMap_map_iff.mp hc.keys
      obtain ⟨-, hsettled'⟩ := Value.settled_map_iff.mp helement.settled
      obtain ⟨hkeys', hbelow'⟩ := Value.everyMap_map_iff.mp helement.keys
      refine ⟨Value.settled_map_iff.mpr ⟨hincreasing.setKeys entries, ?_⟩,
        Value.everyMap_map_iff.mpr ⟨List.all_eq_true.mpr ?_, ?_⟩⟩
      · exact Value.forall_mem_setKeys hsettled' hsettled
      · exact Value.forall_mem_setKeys (List.all_eq_true.mp hkeys') (List.all_eq_true.mp hkeys)
      · exact Value.forall_mem_setKeys hbelow' hbelow
  | _ => exact hc

/-- A name leads into the element if the element has it, and otherwise into the context. -/
lemma walk_within (helement : element.Named) (name : String) (rest : List Segment) :
    (c.within element).value.walk (.key name :: rest) =
      if (element.get? name).isSome then element.walk (.key name :: rest)
      else c.value.walk (.key name :: rest) := by
  cases element with
  | map entries =>
      have hincreasing := (Value.settled_map_iff.mp helement.settled).1
      have hlookup : (c.within (.map entries)).value.get? name =
          (Value.lookup name entries).or (Value.lookup name c.entries) :=
        hincreasing.lookup_setKeys name c.entries
      simp only [Value.walk, Value.step, hlookup]
      cases hentry : Value.lookup name entries <;> simp [Value.get?, hentry, Context.value]
  | _ => rfl

/-- In a context with named keys no position leads anywhere. -/
lemma walk_index (hc : c.value.Named) (position : Nat) (rest : List Segment) :
    c.value.walk (.index position :: rest) = none := by
  have hstep : c.value.step (.index position) = none :=
    lookup_digits (Value.everyMap_map_iff.mp hc.keys).1 position
  rw [Value.walk, hstep]
  rfl

end Context

/-! ## Bindings without defaults -/

namespace Bindings

variable {schema : Schema} {strictness : Strictness}

lemma index_bind (v : Value) (hdefaults : ∀ d ∈ schema, d.2.default = none) :
    (bind v schema strictness).index = flatten [] v := by
  refine List.foldlRecOn (motive := fun index => index = flatten [] v) schema _ rfl
    fun index hindex d hd => ?_
  obtain ⟨name, declaration⟩ := d
  have hnone : declaration.default = none := hdefaults _ hd
  simp only [addDefault, hnone]
  exact hindex

/-- Without defaults, named data is looked up as it is walked. -/
lemma lookup?_bind {v : Value} (hv : v.Named) (hdefaults : ∀ d ∈ schema, d.2.default = none)
    {p : Path} (hp : p.WellFormed) (hroot : p.scope = .root) :
    (bind v schema strictness).lookup? p = v.walk p.segments := by
  have hlead := hp.lead
  rw [hroot] at hlead
  rw [lookup?, get?, index_bind v hdefaults]
  exact lookup_flatten_eq_walk hv.settled hv.plain hlead.1 hp.steps

end Bindings

namespace Template

open Rendering

/-! ## Seeing through a frame -/

/-- The bindings `b`, seen through an outermost frame, are like `b'`: paths that do not ask the
round of the frame have the same values, and references without value come to the same. -/
structure SeenThrough (b : Bindings) (frame : Frame) (b' : Bindings) : Prop where
  resolve : ∀ frames p, p.WellFormed → frames ≠ [] ∨ p.scope = .root →
    resolve b (frames ++ [frame]) p = resolve b' frames p
  notice : ∀ p, b.noticeOf p = b'.noticeOf p

lemma owner?_append (frames : List Frame) (frame : Frame) (key : String) :
    owner? (frames ++ [frame]) key =
      (owner? frames key).or
        (if (frame.item.get? key).isSome then some frame.item else none) := by
  rw [owner?, List.find?_append, Option.map_or, owner?]
  congr 1
  rw [List.find?_singleton]
  split <;> rfl

/-- **Passing an element by is like having taken in its keys.** -/
lemma resolve_within {c : Context} (hc : c.value.Named) {schema : Schema}
    (hdefaults : ∀ d ∈ schema, d.2.default = none) {strictness : Strictness} {frame : Frame}
    (hframe : frame.item.Named) (frames : List Frame) {p : Path} (hp : p.WellFormed)
    (hround : frames ≠ [] ∨ p.scope = .root) :
    resolve (bind c.value schema strictness) (frames ++ [frame]) p =
      resolve (bind (c.within frame.item).value schema strictness) frames p := by
  by_cases hroot : p.scope = .root
  · have houtside : (bind c.value schema strictness).lookup? p = c.value.walk p.segments :=
      lookup?_bind hc hdefaults hp hroot
    have hwithin : (bind (c.within frame.item).value schema strictness).lookup? p =
        (c.within frame.item).value.walk p.segments :=
      lookup?_bind (Context.named_within hc hframe) hdefaults hp hroot
    have hlead := hp.lead
    rw [hroot] at hlead
    obtain ⟨s, rest, hsegments⟩ := List.exists_cons_of_ne_nil hlead.1
    rw [hsegments] at houtside hwithin
    simp only [resolve, hroot, Path.firstName?, hsegments, houtside, hwithin]
    cases s with
    | key name =>
        rw [Option.bind_some, Option.bind_some, owner?_append, Context.walk_within hframe]
        cases owner? frames name with
        | some item => rfl
        | none => by_cases hkey : (frame.item.get? name).isSome <;> simp [hkey]
    | index position =>
        have hnone := Context.walk_index hc position rest
        have hnone' := Context.walk_index (Context.named_within hc hframe) position rest
        rw [hnone, hnone']
        rfl
  · obtain ⟨f, fs, rfl⟩ := List.exists_cons_of_ne_nil (hround.resolve_right hroot)
    cases hscope : p.scope with
    | root => exact absurd hscope hroot
    | _ => simp only [resolve, hscope, List.cons_append, List.head?_cons]

/-- The bindings of a context, seen through an element, are like those of the context that takes in
its keys. -/
lemma seenThrough_within {c : Context} (hc : c.value.Named) {schema : Schema}
    (hdefaults : ∀ d ∈ schema, d.2.default = none) (strictness : Strictness) {frame : Frame}
    (hframe : frame.item.Named) :
    SeenThrough (bind c.value schema strictness) frame
      (bind (c.within frame.item).value schema strictness) where
  resolve frames _ hp hround := resolve_within hc hdefaults hframe frames hp hround
  notice _ := rfl

section

variable {b b' : Bindings} {frame : Frame}

lemma renderExpression_seenThrough (h : SeenThrough b frame b') {frames : List Frame}
    {e : Expression} (hpath : e.path.WellFormed) (hround : frames ≠ [] ∨ e.path.scope = .root) :
    renderExpression b (frames ++ [frame]) e = renderExpression b' frames e := by
  simp only [renderExpression, missing, h.resolve frames e.path hpath hround, h.notice]

lemma loopItems_seenThrough (h : SeenThrough b frame b') {frames : List Frame}
    {p : Path} (hpath : p.WellFormed) (hround : frames ≠ [] ∨ p.scope = .root) :
    loopItems b (frames ++ [frame]) p = loopItems b' frames p := by
  simp only [loopItems, missing, h.resolve frames p hpath hround, h.notice]

mutual

lemma renderNode_seenThrough (h : SeenThrough b frame b') (frames : List Frame) :
    (node : Node) → (∀ p ∈ node.paths, p.WellFormed) →
      (frames ≠ [] ∨ ∀ p ∈ node.outerPaths, p.scope = .root) →
        renderNode b (frames ++ [frame]) node = renderNode b' frames node
  | .text s, _, _ => by rw [renderNode, renderNode]
  | .expr e, hpaths, hround => by
      simp only [Node.paths, Node.outerPaths, List.forall_mem_singleton] at hpaths hround
      rw [renderNode, renderNode]
      exact renderExpression_seenThrough h hpaths hround
  | .block .cond path body otherwise, hpaths, hround => by
      simp only [Node.paths, Node.outerPaths, List.forall_mem_cons, List.forall_mem_append]
        at hpaths hround
      obtain ⟨hpath, hbody, hotherwise⟩ := hpaths
      rw [renderNode, renderNode, h.resolve frames path hpath (hround.imp_right And.left),
        renderNodes_seenThrough h frames body hbody (hround.imp_right fun hr => hr.2.1),
        renderNodes_seenThrough h frames otherwise hotherwise (hround.imp_right fun hr => hr.2.2)]
  | .block .loop path body otherwise, hpaths, hround => by
      simp only [Node.paths, Node.outerPaths, List.forall_mem_cons, List.forall_mem_append]
        at hpaths hround
      obtain ⟨hpath, hbody, hotherwise⟩ := hpaths
      -- in the body there is a nearer round to ask
      have hrounds (f : Frame) :
          renderNodes b (f :: (frames ++ [frame])) body = renderNodes b' (f :: frames) body :=
        renderNodes_seenThrough h (f :: frames) body hbody (.inl (List.cons_ne_nil _ _))
      rw [renderNode, renderNode, loopItems_seenThrough h hpath (hround.imp_right And.left),
        renderNodes_seenThrough h frames otherwise hotherwise (hround.imp_right And.right)]
      simp only [hrounds]

/-- **What is seen through an outermost frame is rendered as it is without the frame**, if no path
asks the round of the frame. -/
lemma renderNodes_seenThrough (h : SeenThrough b frame b') (frames : List Frame) :
    (nodes : List Node) → (∀ p ∈ pathsOf nodes, p.WellFormed) →
      (frames ≠ [] ∨ ∀ p ∈ outerPathsOf nodes, p.scope = .root) →
        renderNodes b (frames ++ [frame]) nodes = renderNodes b' frames nodes
  | [], _, _ => by rw [renderNodes, renderNodes]
  | node :: rest, hpaths, hround => by
      simp only [pathsOf, outerPathsOf, List.forall_mem_append] at hpaths hround
      rw [renderNodes, renderNodes,
        renderNode_seenThrough h frames node hpaths.1 (hround.imp_right And.left),
        renderNodes_seenThrough h frames rest hpaths.2 (hround.imp_right And.right)]

end

end

/-! ## Loops -/

/-- The texts of renderings, one after another. -/
def inTurn : List (Rendering (List Char)) → Rendering (List Char)
  | [] => done []
  | r :: rest => r.andThen fun text => (inTurn rest).andThen fun tail => done (text ++ tail)

lemma renderRounds_eq_inTurn {round : Frame → Rendering (List Char)}
    {ofItem : Value → Rendering (List Char)} {items : List Value}
    (h : ∀ frame : Frame, frame.item ∈ items → round frame = ofItem frame.item)
    (length index : Nat) : renderRounds round length index items = inTurn (items.map ofItem) := by
  induction items generalizing index with
  | nil => rfl
  | cons item rest ih =>
      have hrest := ih (fun frame hframe => h frame (List.mem_cons_of_mem _ hframe)) (index + 1)
      have hitem := h ⟨item, index, length⟩ List.mem_cons_self
      rw [renderRounds, hitem, hrest]
      rfl

/-- Only a path that is seen from the root has a value outside of loops. -/
lemma scope_of_resolve_nil {b : Bindings} {p : Path} {v : Value} (h : resolve b [] p = some v) :
    p.scope = .root ∧ b.lookup? p = some v := by
  cases hscope : p.scope with
  | root =>
      refine ⟨rfl, ?_⟩
      have howner (key : String) : owner? [] key = none := rfl
      simpa only [resolve, hscope, howner, Option.bind_fun_none] using h
  | _ => simp [resolve, hscope] at h

/-- **A loop shows its body in the context of each element.**  Let a loop of a body run over a list
of the context, and let its own body ask only rounds of loops within it.  If the list is empty, the
loop is rendered as its second part; otherwise it is rendered as its body once for each element, in
order, in the context with the keys of the element.  Both sides are the same computation: they have
the same text, add the same warnings, each once, and fail with the same error. -/
theorem renderNode_loop {text : String} {nodes : List Node} (hparse : parse text = .ok nodes)
    {path : Path} {body otherwise : List Node} (hblock : .block .loop path body otherwise ∈ nodes)
    (hround : ∀ p ∈ outerPathsOf body, p.scope = .root) {c : Context} (hc : c.value.Named)
    {schema : Schema} (hdefaults : ∀ d ∈ schema, d.2.default = none) (strictness : Strictness)
    {items : List Value}
    (hitems : resolve (bind c.value schema strictness) [] path = some (.list items)) :
    renderNode (bind c.value schema strictness) [] (.block .loop path body otherwise) =
      if items.isEmpty then renderNodes (bind c.value schema strictness) [] otherwise
      else inTurn (items.map fun element =>
        renderNodes (bind (c.within element).value schema strictness) [] body) := by
  have hpaths : ∀ p ∈ (Node.block .loop path body otherwise).paths, p.WellFormed :=
    fun p hp => wellFormed_of_parse hparse p (mem_pathsOf hblock hp)
  simp only [Node.paths, List.forall_mem_cons, List.forall_mem_append] at hpaths
  obtain ⟨hpath, hbody, -⟩ := hpaths
  -- the elements are data of the context, so their keys are names
  obtain ⟨hroot, hlookup⟩ := scope_of_resolve_nil hitems
  rw [lookup?_bind hc hdefaults hpath hroot] at hlookup
  have hlist : (Value.list items).Named := hc.walk hlookup
  have hrounds (frame : Frame) (hframe : frame.item ∈ items) :
      renderNodes (bind c.value schema strictness) [frame] body =
        renderNodes (bind (c.within frame.item).value schema strictness) [] body :=
    renderNodes_seenThrough
      (seenThrough_within hc hdefaults strictness (hlist.item hframe)) [] body hbody (.inr hround)
  have hloop : loopItems (bind c.value schema strictness) [] path = done items := by
    rw [loopItems, hitems]
  rw [renderNode, hloop, ← renderRounds_eq_inTurn hrounds items.length 0]
  rfl

/-- A body with a loop in a loop: the inner one asks its own round, and sees the outer element and
the context. -/
def nestedText : String :=
  "\x7b\x7b#each items\x7d\x7d\x7b\x7b name \x7d\x7d\x7b\x7b#each tags\x7d\x7d" ++
    "\x7b\x7b this \x7d\x7d\x7b\x7b title \x7d\x7d\x7b\x7b/each\x7d\x7d\x7b\x7belse\x7d\x7dnone\x7b\x7b/each\x7d\x7d"

theorem renderNode_loop_nested :
    let body : List Node :=
      [.expr ⟨⟨.root, [.key "name"]⟩, []⟩,
        .block .loop ⟨.root, [.key "tags"]⟩
          [.expr ⟨⟨.this, []⟩, []⟩, .expr ⟨⟨.root, [.key "title"]⟩, []⟩] []]
    let nodes : List Node :=
      [.block .loop ⟨.root, [.key "items"]⟩ body [.text "none"]]
    let items : List Value :=
      [.map [("name", .text "a"), ("tags", .list [.text "x", .text "y"])], .number (.whole 7)]
    let c : Context := ⟨[("items", .list items), ("title", .text "T")]⟩
    let schema : Schema := [("name", ⟨some true, none, none⟩)]
    parse nestedText = .ok nodes ∧
      (∀ p ∈ outerPathsOf body, p.scope = .root) ∧
      c.value.Named ∧
      (∀ d ∈ schema, d.2.default = none) ∧
      resolve (bind c.value schema .lenient) [] ⟨.root, [.key "items"]⟩ = some (.list items) ∧
      renderNode (bind c.value schema .lenient) []
          (.block .loop ⟨.root, [.key "items"]⟩ body [.text "none"]) =
        if items.isEmpty then renderNodes (bind c.value schema .lenient) [] [.text "none"]
        else inTurn (items.map fun element =>
          renderNodes (bind (c.within element).value schema .lenient) [] body) := by
  intro body nodes items c schema
  have hparse : parse nestedText = .ok nodes := by rfl
  have hround : ∀ p ∈ outerPathsOf body, p.scope = .root := by decide
  have hc : c.value.Named := ⟨rfl, by decide +kernel⟩
  have hdefaults : ∀ d ∈ schema, d.2.default = none := List.forall_mem_singleton.mpr rfl
  have hitems : resolve (bind c.value schema .lenient) [] ⟨.root, [.key "items"]⟩ =
      some (.list items) := rfl
  exact ⟨hparse, hround, hc, hdefaults, hitems,
    renderNode_loop hparse List.mem_cons_self hround hc hdefaults .lenient hitems⟩

end Template

end Docket
