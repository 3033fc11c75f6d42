import Docket.Proofs.Rendering.Joining
import Docket.Proofs.Value.Braces

/-!
# No tag is left in what is rendered

Single braces may stand in the text of a body, and maps are displayed with braces of their own, so
two pieces that are rendered one behind the other might make a pair of opening braces where they
meet.  They do not (`renderBody_tagFree`): every piece but a text at the very end of the body is
`Unopening`, that is, it has no pair of opening braces and does not end with one.

For the texts of a body this is where cutting leaves them (`Cuts.exists_last`): a text before a tag
ends where the first pair of opening braces starts.  For values it follows from the way they are
displayed (`BracesLead.not_pair`).  Pieces of this kind can be put side by side in any order, so
rendering keeps to them through conditions, rounds of loops and filters (`renderNodes_unopening`).
-/

namespace Docket.Template

open Rendering

/-! ## Pieces that open nothing -/

/-- A text without a pair of opening braces, also with one more brace behind it. -/
def Unopening (cs : List Char) : Prop := ¬ openingBraces <:+: cs ++ ['\x7b']

lemma unopening_nil : Unopening [] := not_pair_singleton _ _

lemma Unopening.append {a b : List Char} (ha : Unopening a) (hb : Unopening b) :
    Unopening (a ++ b) := by
  rw [Unopening, List.append_assoc]
  exact not_pair_append_of_concat ha hb

lemma unopening_display {v : Value} (h : v.Tame) : Unopening v.display.toList :=
  h.bracesLead_display.not_pair

/-! ## The texts of a body -/

/-- **All texts of a body open nothing, but for one at its end**, which has no pair of opening
braces either. -/
lemma Cuts.exists_last {cs : List Char} {pieces : List Piece} (h : Cuts cs pieces) :
    ∃ front last, pieces = front ++ Piece.ofText last ∧ ¬ openingBraces <:+: last ∧
      ∀ text, .text text ∈ front → Unopening text := by
  induction h with
  | @text cs h => exact ⟨[], cs, rfl, h, nofun⟩
  | @tag before inner rest pieces hbefore _ _ ih =>
      obtain ⟨front, last, rfl, hlast, hfront⟩ := ih
      refine ⟨Piece.ofText before ++ .tag inner :: front, last, by simp, hlast, ?_⟩
      intro text htext
      rcases List.mem_append.mp htext with htext | htext
      · unfold Piece.ofText at htext
        split at htext
        · cases htext
        · cases List.mem_singleton.mp htext
          exact hbefore
      · exact hfront text (by simpa using htext)

/-- A filter that keeps braces as they are, with arguments that have no opening brace. -/
structure FilterCall.KeepsBraces (call : FilterCall) : Prop where
  filter : call.filter ∈ Filter.keepingBraces
  args : ∀ v ∈ call.args, v.BraceFree

/-- A text that opens nothing, or a tag that puts nothing together that does. -/
def Token.Harmless : Token → Prop
  | .text s => Unopening s.toList
  | .tag (.expression e) => ∀ call ∈ e.filters, call.KeepsBraces
  | .tag _ => True

lemma mem_of_mem_withoutEmptyElse {tokens : List Token} {token : Token}
    (h : token ∈ withoutEmptyElse tokens) : token ∈ tokens := by
  induction tokens using withoutEmptyElse.induct with
  | case1 kind rest ih =>
      rw [withoutEmptyElse, List.mem_cons] at h
      rcases h with rfl | h
      · simp
      · simp [ih h]
  | case2 first rest hfirst ih =>
      rw [withoutEmptyElse, List.mem_cons] at h
      · rcases h with rfl | h
        · exact List.mem_cons_self
        · exact List.mem_cons_of_mem _ (ih h)
      · exact hfirst
  | case3 => exact h

lemma tokensOf_append (nodes nodes' : List Node) :
    tokensOf (nodes ++ nodes') = tokensOf nodes ++ tokensOf nodes' := by
  induction nodes with
  | nil => rfl
  | cons node rest ih => rw [List.cons_append, tokensOf, tokensOf, ih, List.append_assoc]

/-- A text among the tokens stands among the pieces. -/
lemma mem_pieces_of_text {pieces : List Piece} {tokens : List Token}
    (h : List.Forall₂ Piece.Means pieces tokens) {s : String} (hs : .text s ∈ tokens) :
    .text s.toList ∈ pieces := by
  induction h with
  | nil => cases hs
  | cons hmeans _ ih =>
      rcases List.mem_cons.mp hs with rfl | hs
      · cases hmeans
        rw [String.toList_ofList]
        exact List.mem_cons_self
      · exact List.mem_cons_of_mem _ (ih hs)

/-- What the last text of a body is read as stands outside of blocks, and renders to the text. -/
lemma Derives.of_append_ofText {tokens tokens' : List Token} {last : List Char} {nodes : List Node}
    (h : Derives (tokens ++ tokens') nodes)
    (hlast : List.Forall₂ Piece.Means (Piece.ofText last) tokens') :
    ∃ front tail, nodes = front ++ tail ∧ Derives tokens front ∧
      ∀ b frames, renderNodes b frames tail = done last := by
  by_cases hnil : last = []
  · subst hnil
    obtain rfl : tokens' = [] := List.forall₂_nil_left_iff.mp hlast
    refine ⟨nodes, [], by simp, by simpa using h, fun b frames => ?_⟩
    rw [renderNodes]
  · rw [Piece.ofText, if_neg hnil] at hlast
    obtain ⟨_, _, ⟨⟩, ⟨⟩, rfl⟩ := List.forall₂_cons_left_iff.mp hlast
    obtain ⟨front, rfl, hfront⟩ := h.of_append_text
    refine ⟨front, _, rfl, hfront, fun b frames => ?_⟩
    simp only [renderNodes, renderNode, done_andThen, String.toList_ofList, List.append_nil]

/-- **A body is read as nodes whose texts open nothing, and one text at its end.** -/
lemma exists_last_of_parse {body : String} {nodes : List Node} (h : parse body = .ok nodes) :
    ∃ front tail last, nodes = front ++ tail ∧
      (∀ b frames, renderNodes b frames tail = done last) ∧ ¬ openingBraces <:+: last ∧
      ∀ s, .text s ∈ tokensOf front → Unopening s.toList := by
  obtain ⟨tokens, ⟨pieces, hcuts, hmeans⟩, hderives⟩ := parse_eq_ok_iff_derives.mp h
  obtain ⟨front, last, rfl, hlast, hfront⟩ := hcuts.exists_last
  obtain ⟨ahead, behind, hahead, hbehind, rfl⟩ := forall₂_append_left.mp hmeans
  obtain ⟨nodes, tail, rfl, hnodes, htail⟩ := hderives.of_append_ofText hbehind
  refine ⟨nodes, tail, last, rfl, htail, hlast, fun s hs => ?_⟩
  rw [tokensOf_of_derives hnodes] at hs
  exact hfront _ (mem_pieces_of_text hahead (mem_of_mem_withoutEmptyElse hs))

/-! ## What a rendering gives if it succeeds -/

/-- Whatever a rendering gives has a property. -/
def Yields {α : Type} (P : α → Prop) (r : Rendering α) : Prop :=
  ∀ ws a ws', r ws = ⟨.ok a, ws'⟩ → P a

section

variable {α β : Type} {P : α → Prop} {Q : β → Prop}

lemma yields_done {a : α} (h : P a) : Yields P (done a) := by
  intro ws a' ws' heq
  cases heq
  exact h

lemma yields_any (r : Rendering α) : Yields (fun _ => True) r := fun _ _ _ _ => trivial

lemma yields_lift {r : Except Error α} (h : ∀ a, r = .ok a → P a) : Yields P (lift r) :=
  fun _ a _ heq => h a (congrArg Outcome.result heq)

lemma Yields.andThen {r : Rendering α} {f : α → Rendering β} (hr : Yields P r)
    (hf : ∀ a, P a → Yields Q (f a)) : Yields Q (r.andThen f) := by
  intro ws b ws' heq
  rcases hfirst : r ws with ⟨_ | a, ws₁⟩
  · rw [andThen_of_error hfirst] at heq
    cases heq
  · rw [andThen_of_ok hfirst] at heq
    exact hf a (hr ws a ws₁ hfirst) ws₁ b ws' heq

/-- Two renderings whose texts open nothing, one behind the other. -/
lemma Yields.join {r s : Rendering (List Char)} (hr : Yields Unopening r)
    (hs : Yields Unopening s) :
    Yields Unopening (r.andThen fun text => s.andThen fun tail => done (text ++ tail)) :=
  hr.andThen fun _ htext => hs.andThen fun _ htail => yields_done (htext.append htail)

end

/-! ## Rendering -/

lemma tame_applyFilters {label : String} {calls : List FilterCall}
    (hcalls : ∀ call ∈ calls, call.KeepsBraces) {v w : Value} (hv : v.Tame)
    (h : applyFilters label calls v = .ok w) : w.Tame := by
  induction calls generalizing v with
  | nil =>
      cases h
      exact hv
  | cons call rest ih =>
      obtain ⟨hcall, hrest⟩ := List.forall_mem_cons.mp hcalls
      rw [applyFilters] at h
      split at h
      · cases h
      · rename_i u happly
        exact ih hrest (Filter.tame_apply hcall.filter hcall.args hv happly) h

lemma filtered_unopening {e : Expression} (he : ∀ call ∈ e.filters, call.KeepsBraces) {v : Value}
    (hv : v.BraceFree) : Yields Unopening (filtered e v) := by
  refine yields_lift fun text htext => ?_
  cases hfilters : applyFilters e.path.display e.filters v with
  | error error =>
      rw [hfilters] at htext
      cases htext
  | ok w =>
      rw [hfilters] at htext
      cases htext
      exact unopening_display (tame_applyFilters he (.inl hv) hfilters)

lemma renderRounds_unopening {round : Frame → Rendering (List Char)} {items : List Value}
    (h : ∀ frame : Frame, frame.item ∈ items → Yields Unopening (round frame))
    (length index : Nat) : Yields Unopening (renderRounds round length index items) := by
  induction items generalizing index with
  | nil => exact yields_done unopening_nil
  | cons item rest ih =>
      refine Yields.join (h _ List.mem_cons_self) (ih (fun frame hframe => ?_) (index + 1))
      exact h frame (List.mem_cons_of_mem item hframe)

section

variable {b : Bindings} (hb : ∀ key v, b.get? key = some v → v.BraceFree) {frames : List Frame}
  (hframes : ∀ frame ∈ frames, frame.item.BraceFree)

include hb hframes

/-- A path leads to values without braces if all bound values and all elements are. -/
lemma braceFree_resolve {p : Path} {v : Value} (h : resolve b frames p = some v) : v.BraceFree := by
  unfold resolve at h
  split at h
  · obtain ⟨frame, -, rfl⟩ := Option.map_eq_some_iff.mp h
    rfl
  · obtain ⟨frame, -, rfl⟩ := Option.map_eq_some_iff.mp h
    rfl
  · obtain ⟨frame, -, rfl⟩ := Option.map_eq_some_iff.mp h
    rfl
  · obtain ⟨frame, hframe, hwalk⟩ := Option.bind_eq_some_iff.mp h
    exact Value.everyText_of_walk (hframes frame (List.mem_of_mem_head? hframe)) hwalk
  · split at h
    · rename_i item hitem
      obtain ⟨name, -, howner⟩ := Option.bind_eq_some_iff.mp hitem
      obtain ⟨frame, hframe, rfl⟩ := Option.map_eq_some_iff.mp howner
      exact Value.everyText_of_walk (hframes frame (List.mem_of_find?_eq_some hframe)) h
    · exact hb _ v h

lemma renderExpression_unopening {e : Expression} (he : ∀ call ∈ e.filters, call.KeepsBraces) :
    Yields Unopening (renderExpression b frames e) := by
  rw [renderExpression]
  split
  · rename_i v hv
    exact filtered_unopening he (braceFree_resolve hb hframes hv)
  · split
    · exact filtered_unopening he rfl
    · exact (yields_any _).andThen fun _ _ => yields_done unopening_nil

lemma loopItems_braceFree (p : Path) :
    Yields (fun items => ∀ v ∈ items, v.BraceFree) (loopItems b frames p) := by
  rw [loopItems]
  split
  · rename_i items hitems
    exact yields_done (Value.everyText_list_iff.mp (braceFree_resolve hb hframes hitems))
  · exact yields_done (List.forall_mem_nil _)
  · refine yields_lift fun items heq => ?_
    cases heq
  · exact (yields_any _).andThen fun _ _ => yields_done (List.forall_mem_nil _)

end

/-! ### Trees -/

section

variable {kind : BlockKind} {path : Path} {body otherwise : List Node} {token : Token}

lemma mem_tokens_of_body (h : token ∈ tokensOf body) :
    token ∈ (Node.block kind path body otherwise).tokens := by
  cases otherwise <;> simp [Node.tokens, h]

lemma mem_tokens_of_otherwise (h : token ∈ tokensOf otherwise) :
    token ∈ (Node.block kind path body otherwise).tokens := by
  cases otherwise with
  | nil => cases h
  | cons node rest =>
      rw [tokensOf, List.mem_append] at h
      rcases h with h | h <;> simp [Node.tokens, h]

end

section

variable {b : Bindings}

mutual

lemma renderNode_unopening (hb : ∀ key v, b.get? key = some v → v.BraceFree) {frames : List Frame}
    (hframes : ∀ frame ∈ frames, frame.item.BraceFree) :
    (node : Node) → (∀ token ∈ node.tokens, token.Harmless) →
      Yields Unopening (renderNode b frames node)
  | .text s, h => by
      rw [renderNode]
      exact yields_done (h (.text s) List.mem_cons_self)
  | .expr e, h => by
      rw [renderNode]
      exact renderExpression_unopening hb hframes (h (.tag (.expression e)) List.mem_cons_self)
  | .block .cond path body otherwise, h => by
      rw [renderNode]
      split
      · exact renderNodes_unopening hb hframes body fun t ht => h t (mem_tokens_of_body ht)
      · exact renderNodes_unopening hb hframes otherwise fun t ht =>
          h t (mem_tokens_of_otherwise ht)
  | .block .loop path body otherwise, h => by
      rw [renderNode]
      refine (loopItems_braceFree hb hframes path).andThen fun items hitems => ?_
      split
      · exact renderNodes_unopening hb hframes otherwise fun t ht =>
          h t (mem_tokens_of_otherwise ht)
      · refine renderRounds_unopening (fun frame hframe => ?_) _ _
        exact renderNodes_unopening hb (List.forall_mem_cons.mpr ⟨hitems _ hframe, hframes⟩) body
          fun t ht => h t (mem_tokens_of_body ht)

/-- **Harmless nodes render to texts that open nothing**, whatever stands around them. -/
lemma renderNodes_unopening (hb : ∀ key v, b.get? key = some v → v.BraceFree) {frames : List Frame}
    (hframes : ∀ frame ∈ frames, frame.item.BraceFree) :
    (nodes : List Node) → (∀ token ∈ tokensOf nodes, token.Harmless) →
      Yields Unopening (renderNodes b frames nodes)
  | [], _ => by
      rw [renderNodes]
      exact yields_done unopening_nil
  | node :: rest, h => by
      rw [tokensOf, List.forall_mem_append] at h
      rw [renderNodes]
      exact (renderNode_unopening hb hframes node h.1).join
        (renderNodes_unopening hb hframes rest h.2)

end

end

/-- **No tag is left in what is rendered.**  Take a body that can be read, all of whose filters are
`upper`, `lower`, `trim`, `capitalize`, `length`, `join` or `default` with arguments that have no
opening brace, and a context and defaults in which no text and no key has one.  Wherever rendering
the body succeeds, under either strictness, its text has no pair of opening braces. -/
theorem renderBody_tagFree {body : String} {nodes : List Node} (hparse : parse body = .ok nodes)
    (hfilters : ∀ e, .tag (.expression e) ∈ tokensOf nodes → ∀ call ∈ e.filters, call.KeepsBraces)
    {context : Value} (hcontext : context.BraceFree) {schema : Schema}
    (hdefaults : ∀ d ∈ schema, ∀ v, d.2.default = some v → v.BraceFree) (strictness : Strictness)
    (ws : List String) {text : String}
    (h : (renderBody (Bindings.bind context schema strictness) body ws).result = .ok text) :
    ¬ openingBraces <:+: text.toList := by
  have hb : ∀ key v, (Bindings.bind context schema strictness).get? key = some v → v.BraceFree :=
    fun key v => Bindings.everyText_of_get? hcontext hdefaults
  obtain ⟨front, tail, last, rfl, htail, hlast, htexts⟩ := exists_last_of_parse hparse
  have hharmless : ∀ token ∈ tokensOf front, token.Harmless := by
    intro token htoken
    match token, htoken with
    | .text s, hs => exact htexts s hs
    | .tag (.expression e), he =>
        exact hfilters e (tokensOf_append front tail ▸ List.mem_append_left _ he)
    | .tag (.opening _ _), _ | .tag .otherwise, _ | .tag (.closing _), _ => trivial
  have hfront := renderNodes_unopening hb (List.forall_mem_nil _) front hharmless
  have hyields : Yields (fun text => ¬ openingBraces <:+: text.toList)
      (renderBody (Bindings.bind context schema strictness) body) := by
    rw [renderBody_of_parse _ hparse, renderNodes_append, htail]
    simp only [andThen_assoc, done_andThen]
    refine hfront.andThen fun text htext => yields_done ?_
    rw [String.toList_ofList]
    exact not_pair_append_of_concat htext hlast
  rcases hresult : renderBody (Bindings.bind context schema strictness) body ws with ⟨result, ws'⟩
  rw [hresult] at h
  exact hyields ws text ws' (hresult.trans (by rw [← h]))

/-- A loop over maps and lists between single braces, and joined texts with filters behind it. -/
def rowsText : String :=
  "\x7b \x7b\x7b#each rows\x7d\x7d" ++ "\x7b\x7bthis\x7d\x7d\x7d " ++ "\x7b\x7belse\x7d\x7dx" ++
    "\x7b\x7b/each\x7d\x7d" ++ "\x7b\x7bname | default(\"\x7d\") | capitalize\x7d\x7d" ++
      "\x7b\x7brows | join(\",\") | upper | trim\x7d\x7d \x7b"

/-- The nodes of the text. -/
def rowsNodes : List Node :=
  [.text "\x7b ",
    .block .loop ⟨.root, [.key "rows"]⟩ [.expr ⟨⟨.this, []⟩, []⟩, .text "\x7d "] [.text "x"],
    .expr ⟨⟨.root, [.key "name"]⟩, [⟨.default, [.text "\x7d"]⟩, ⟨.capitalize, []⟩]⟩,
    .expr ⟨⟨.root, [.key "rows"]⟩, [⟨.join, [.text ","]⟩, ⟨.upper, []⟩, ⟨.trim, []⟩]⟩,
    .text " \x7b"]

lemma parse_rowsText : parse rowsText = .ok rowsNodes := 
  set_option maxRecDepth 2000 in rfl

/-- Maps in maps and lists, from a default, and null in the context. -/
theorem renderBody_tagFree_rows :
    let context : Value := .map [("name", .null)]
    let rows : Value := .list [.map [("k", .map [("a", .null)])], .list [.map []], .text "\x7d"]
    let schema : Schema := [("rows", { default := some rows })]
    let text := "\x7b \x7b\"k\":\x7b\"a\":null\x7d\x7d\x7d [\x7b\x7d]\x7d \x7d\x7d \x7d" ++
      "\x7b\"K\":\x7b\"A\":NULL\x7d\x7d,[\x7b\x7d],\x7d \x7b"
    parse rowsText = .ok rowsNodes ∧
      (∀ e, .tag (.expression e) ∈ tokensOf rowsNodes → ∀ call ∈ e.filters, call.KeepsBraces) ∧
      context.BraceFree ∧ (∀ d ∈ schema, ∀ v, d.2.default = some v → v.BraceFree) ∧
      (renderBody (Bindings.bind context schema .strict) rowsText []).result = .ok text ∧
      ¬ openingBraces <:+: text.toList := by
  intro context rows schema text
  have hfilters : ∀ e, .tag (.expression e) ∈ tokensOf rowsNodes →
      ∀ call ∈ e.filters, call.KeepsBraces := by
    have hplain : ∀ filter ∈ Filter.keepingBraces, FilterCall.KeepsBraces ⟨filter, []⟩ :=
      fun _ hfilter => ⟨hfilter, List.forall_mem_nil _⟩
    have htext (s : String) (hs : Value.isBraceFree s) : ∀ filter ∈ Filter.keepingBraces,
        FilterCall.KeepsBraces ⟨filter, [.text s]⟩ := fun _ hfilter =>
      ⟨hfilter, List.forall_mem_singleton.mpr hs⟩
    intro e he
    simp only [rowsNodes, tokensOf, Node.tokens, List.mem_cons, List.append_nil, List.cons_append,
      List.nil_append, Token.tag.injEq, Tag.expression.injEq, reduceCtorEq,
      false_or, or_false, List.not_mem_nil] at he
    rcases he with rfl | rfl | rfl
    · exact List.forall_mem_nil _
    · exact List.forall_mem_cons.mpr ⟨htext "\x7d" (by decide) _ (by decide),
        List.forall_mem_singleton.mpr (hplain _ (by decide))⟩
    · exact List.forall_mem_cons.mpr ⟨htext "," (by decide) _ (by decide),
        List.forall_mem_cons.mpr ⟨hplain _ (by decide),
          List.forall_mem_singleton.mpr (hplain _ (by decide))⟩⟩
  have hcontext : context.BraceFree := by decide
  have hdefaults : ∀ d ∈ schema, ∀ v, d.2.default = some v → v.BraceFree := by
    rintro d hd v hv
    cases List.mem_singleton.mp hd
    cases hv
    decide
  have hresult : (renderBody (Bindings.bind context schema .strict) rowsText []).result =
      .ok text := by
    rw [renderBody_of_parse _ parse_rowsText]
    decide +kernel
  exact ⟨parse_rowsText, hfilters, hcontext, hdefaults, hresult,
    renderBody_tagFree parse_rowsText hfilters hcontext hdefaults .strict [] hresult⟩

end Docket.Template
