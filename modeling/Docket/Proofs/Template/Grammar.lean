import Docket.Proofs.Template.Cutting
import Docket.Proofs.Template.Tags
import Docket.Template.Body
import Mathlib.Data.List.Forall2

/-!
# The grammar of bodies

A body is read in two strides.  It falls into texts and tags, each of which means a token on its own
(`Reads`); and the tokens derive from the grammar

  nodes ::= (text | expression | opening nodes [else nodes] closing)*

where the opening and the closing of a block are of one kind (`Derives`).  `parse_ok_iff_derives`
says that a body is read exactly if both is the case.  Then the tree is the only one that the tokens
derive, and written down depth first it gives the tokens back (`tokensOf`).

Reading keeps a stack of open blocks.  `Builder.Holds` says what the tokens read so far have to do
with it: cut at the openings that are still waiting for their closing, they derive the parts of the
open blocks.  One token preserves this (`Builder.Holds.take`), so all do (`Builder.Holds.run`), and
a stack that is empty at the end leaves a derivation of the whole.  The other way, a derivation
leads the builder from one token to the next (`Builder.run_of_derives`), so there is no second one.
-/

namespace Docket.Template

/-! ## Tokens -/

/-- What a piece of a body means. -/
inductive Token where
  | text (s : String)
  | tag (t : Tag)

/-- The meaning of a piece by itself. -/
inductive Piece.Means : Piece → Token → Prop where
  | text (cs : List Char) : Means (.text cs) (.text (String.ofList cs))
  | tag {inner : List Char} {t : Tag} : Tag.Spells (Text.trim inner) t → Means (.tag inner) (.tag t)

/-- The body falls into pieces that mean the tokens. -/
def Reads (body : String) (tokens : List Token) : Prop :=
  ∃ pieces, Cuts body.toList pieces ∧ List.Forall₂ Piece.Means pieces tokens

/-! ## Derivations -/

/-- `Derives tokens nodes`: the tokens derive from the grammar, with the tree `nodes`. -/
inductive Derives : List Token → List Node → Prop where
  | nil : Derives [] []
  | text {s : String} {tokens : List Token} {nodes : List Node} : Derives tokens nodes →
    Derives (.text s :: tokens) (.text s :: nodes)
  | expression {e : Expression} {tokens : List Token} {nodes : List Node} : Derives tokens nodes →
    Derives (.tag (.expression e) :: tokens) (.expr e :: nodes)
  | block {kind : BlockKind} {path : Path} {first tokens : List Token} {body nodes : List Node} :
    Derives first body → Derives tokens nodes →
      Derives (.tag (.opening kind path) :: (first ++ .tag (.closing kind) :: tokens))
        (.block kind path body [] :: nodes)
  | blockElse {kind : BlockKind} {path : Path} {first second tokens : List Token}
    {body otherwise nodes : List Node} :
    Derives first body → Derives second otherwise → Derives tokens nodes →
      Derives (.tag (.opening kind path) ::
          (first ++ .tag .otherwise :: (second ++ .tag (.closing kind) :: tokens)))
        (.block kind path body otherwise :: nodes)

lemma Derives.append {tokens tokens' : List Token} {nodes nodes' : List Node}
    (h : Derives tokens nodes) (h' : Derives tokens' nodes') :
    Derives (tokens ++ tokens') (nodes ++ nodes') := by
  induction h with
  | nil => exact h'
  | text _ ih => exact .text ih
  | expression _ ih => exact .expression ih
  | block hfirst _ _ ih => simpa using Derives.block hfirst ih
  | blockElse hfirst hsecond _ _ _ ih => simpa using Derives.blockElse hfirst hsecond ih

/-! ## Writing a tree down -/

mutual

/-- The tokens of a node, depth first.  An empty second part leaves no trace. -/
def Node.tokens : Node → List Token
  | .text s => [.text s]
  | .expr e => [.tag (.expression e)]
  | .block kind path body [] =>
    .tag (.opening kind path) :: (tokensOf body ++ [.tag (.closing kind)])
  | .block kind path body (node :: otherwise) =>
    .tag (.opening kind path) ::
      (tokensOf body ++
        .tag .otherwise :: (node.tokens ++ tokensOf otherwise ++ [.tag (.closing kind)]))

/-- The tokens of a tree, depth first. -/
def tokensOf : List Node → List Token
  | [] => []
  | node :: rest => node.tokens ++ tokensOf rest

end

/-- A second part that is not empty stands behind a turn. -/
lemma Node.tokens_blockElse {kind : BlockKind} {path : Path} {body otherwise : List Node}
    (h : otherwise ≠ []) :
    (Node.block kind path body otherwise).tokens =
      .tag (.opening kind path) ::
        (tokensOf body ++ .tag .otherwise :: (tokensOf otherwise ++ [.tag (.closing kind)])) := by
  obtain ⟨node, rest, rfl⟩ := List.exists_cons_of_ne_nil h
  rw [Node.tokens, tokensOf]

mutual

lemma Node.derives_tokens : (node : Node) → Derives node.tokens [node]
  | .text s => .text .nil
  | .expr e => .expression .nil
  | .block kind path body [] => .block (derives_tokensOf body) .nil
  | .block kind path body (node :: otherwise) => by
    have hotherwise := (Node.derives_tokens node).append (derives_tokensOf otherwise)
    exact .blockElse (derives_tokensOf body) hotherwise .nil

/-- Every tree is derived by its own tokens. -/
lemma derives_tokensOf : (nodes : List Node) → Derives (tokensOf nodes) nodes
  | [] => .nil
  | node :: rest => (Node.derives_tokens node).append (derives_tokensOf rest)

end

/-- The tokens without the turns that an empty second part follows. -/
def withoutEmptyElse : List Token → List Token
  | .tag .otherwise :: .tag (.closing kind) :: rest =>
    .tag (.closing kind) :: withoutEmptyElse rest
  | token :: rest => token :: withoutEmptyElse rest
  | [] => []

lemma withoutEmptyElse_otherwise {tokens : List Token}
    (h : ∀ kind, tokens.head? ≠ some (.tag (.closing kind))) :
    withoutEmptyElse (.tag .otherwise :: tokens) = .tag .otherwise :: withoutEmptyElse tokens := by
  rw [withoutEmptyElse]
  rintro kind rest - rfl
  exact h kind rfl

/-- A derivation of at least one node does not start with a closing. -/
lemma Derives.head?_ne_closing {tokens : List Token} {nodes : List Node} (h : Derives tokens nodes)
    (hne : nodes ≠ []) (rest : List Token) (kind : BlockKind) :
    (tokens ++ rest).head? ≠ some (.tag (.closing kind)) := by
  cases h <;> simp at hne ⊢

/-- A derivation gives back its tokens, whatever stands behind them. -/
lemma withoutEmptyElse_append {tokens : List Token} {nodes : List Node} (h : Derives tokens nodes)
    (rest : List Token) :
    withoutEmptyElse (tokens ++ rest) = tokensOf nodes ++ withoutEmptyElse rest := by
  induction h generalizing rest with
  | nil => rfl
  | text _ ih => simp [withoutEmptyElse, tokensOf, Node.tokens, ih]
  | expression _ ih => simp [withoutEmptyElse, tokensOf, Node.tokens, ih]
  | block _ _ ihfirst ih => simp [withoutEmptyElse, tokensOf, Node.tokens, ihfirst, ih]
  | @blockElse _ _ _ _ _ _ otherwise _ _ hsecond _ ihfirst ihsecond ih =>
      by_cases hempty : otherwise = []
      · subst hempty
        cases hsecond
        simp [withoutEmptyElse, tokensOf, Node.tokens, ihfirst, ih]
      · -- what follows the turn is not a closing, so the turn stays
        have hturn := fun rest => withoutEmptyElse_otherwise (hsecond.head?_ne_closing hempty rest)
        simp [withoutEmptyElse, tokensOf, Node.tokens_blockElse hempty, hturn, ihfirst, ihsecond,
          ih]

lemma tokensOf_of_derives {tokens : List Token} {nodes : List Node} (h : Derives tokens nodes) :
    tokensOf nodes = withoutEmptyElse tokens := by
  simpa [withoutEmptyElse] using (withoutEmptyElse_append h []).symm

/-! ## Reading tokens -/

namespace Builder

/-- Takes in a token. -/
def take (token : Token) (b : Builder) : Except Error Builder :=
  match token with
  | .text s => .ok (b.add (.text s))
  | .tag t => b.tag t

/-- Takes in tokens from left to right. -/
def run (b : Builder) : List Token → Except Error Builder
  | [] => .ok b
  | token :: rest =>
    match b.take token with
    | .error e => .error e
    | .ok b => run b rest

lemma run_cons_of_take {b b' : Builder} {token : Token} (h : b.take token = .ok b')
    (rest : List Token) : b.run (token :: rest) = b'.run rest := by
  rw [run, h]

/-- Pieces are taken in as the tokens they mean. -/
lemma pieces_ok_iff {b b' : Builder} {pieces : List Piece} :
    b.pieces pieces = .ok b' ↔
      ∃ tokens, List.Forall₂ Piece.Means pieces tokens ∧ b.run tokens = .ok b' := by
  induction pieces generalizing b with
  | nil => simp [Builder.pieces, run]
  | cons piece rest ih =>
      simp only [List.forall₂_cons_left_iff]
      cases piece with
      | text cs =>
          rw [Builder.pieces, ih]
          constructor
          · rintro ⟨tokens, hmeans, hrun⟩
            exact ⟨_, ⟨_, _, .text cs, hmeans, rfl⟩, hrun⟩
          · rintro ⟨_, ⟨_, tokens, ⟨⟩, hmeans, rfl⟩, hrun⟩
            exact ⟨tokens, hmeans, hrun⟩
      | tag inner =>
          rw [Builder.pieces]
          constructor
          · intro h
            split at h
            · cases h
            · rename_i t ht
              split at h
              · cases h
              · rename_i b₁ hb₁
                obtain ⟨tokens, hmeans, hrun⟩ := ih.mp h
                refine ⟨_, ⟨_, _, .tag (Tag.read_ok_iff.mp ht), hmeans, rfl⟩, ?_⟩
                have htake : b.take (.tag t) = .ok b₁ := hb₁
                rw [run_cons_of_take htake, hrun]
          · rintro ⟨_, ⟨_, tokens, ⟨⟩, hmeans, rfl⟩, hrun⟩
            rename_i t ht
            rw [Tag.read_ok_iff.mpr ht]
            rw [run, take] at hrun
            split at hrun
            · cases hrun
            · rename_i b₁ hb₁
              simp only [hb₁]
              exact ih.mpr ⟨tokens, hmeans, hrun⟩

/-! ### From the builder to a derivation -/

/-- `Holds tokens b`: having taken in the tokens, the builder holds their trees.  Behind the opening
of every open block stand the tokens of its parts. -/
inductive Holds : List Token → Builder → Prop where
  | root {tokens : List Token} {nodes : List Node} : Derives tokens nodes →
    Holds tokens ⟨nodes.reverse, []⟩
  | first {before tokens : List Token} {b : Builder} {kind : BlockKind} {path : Path}
    {body : List Node} : Holds before b → Derives tokens body →
      Holds (before ++ .tag (.opening kind path) :: tokens)
        { b with opened := ⟨kind, path, body.reverse, none⟩ :: b.opened }
  | second {before first tokens : List Token} {b : Builder} {kind : BlockKind} {path : Path}
    {body otherwise : List Node} : Holds before b → Derives first body → Derives tokens otherwise →
      Holds (before ++ .tag (.opening kind path) :: (first ++ .tag .otherwise :: tokens))
        { b with opened := ⟨kind, path, body.reverse, some otherwise.reverse⟩ :: b.opened }

variable {tokens : List Token} {b b' : Builder}

/-- A node is added behind what the innermost part holds. -/
lemma Holds.add {more : List Token} {node : Node} (h : Holds tokens b)
    (hnode : Derives more [node]) : Holds (tokens ++ more) (b.add node) := by
  cases h with
  | root h => simpa [Builder.add] using Holds.root (h.append hnode)
  | first hbefore h => simpa [Builder.add, OpenBlock.add] using hbefore.first (h.append hnode)
  | second hbefore hfirst h =>
      simpa [Builder.add, OpenBlock.add] using hbefore.second hfirst (h.append hnode)

/-- **One token** is taken in behind those that the builder holds. -/
lemma Holds.take {token : Token} (h : Holds tokens b) (htake : b.take token = .ok b') :
    Holds (tokens ++ [token]) b' := by
  match token with
  | .text s =>
      cases htake
      exact h.add (.text .nil)
  | .tag (.expression e) =>
      cases htake
      exact h.add (.expression .nil)
  | .tag (.opening kind path) =>
      cases htake
      exact h.first .nil
  | .tag .otherwise =>
      cases h with
      | root _ => cases htake
      | first hbefore h =>
          cases htake
          simpa using hbefore.second h .nil
      | second _ _ _ => cases htake
  | .tag (.closing kind) =>
      cases h with
      | root _ => cases htake
      | @first _ tokens _ opened path body hbefore h =>
          simp only [Builder.take, Builder.tag, Builder.close] at htake
          split at htake
          · rename_i hkind
            cases htake
            subst hkind
            have hblock : Derives (.tag (.opening opened path) :: (tokens ++ [_])) [_] :=
              .block h .nil
            simpa [OpenBlock.close] using hbefore.add hblock
          · cases htake
      | @second _ first tokens _ opened path _ _ hbefore hfirst h =>
          simp only [Builder.take, Builder.tag, Builder.close] at htake
          split at htake
          · rename_i hkind
            cases htake
            subst hkind
            have hblock : Derives (.tag (.opening opened path) ::
                (first ++ .tag .otherwise :: (tokens ++ [_]))) [_] := .blockElse hfirst h .nil
            simpa [OpenBlock.close] using hbefore.add hblock
          · cases htake

/-- **All tokens** are taken in behind those that the builder holds. -/
lemma Holds.run {more : List Token} (h : Holds tokens b) (hrun : b.run more = .ok b') :
    Holds (tokens ++ more) b' := by
  induction more generalizing tokens b with
  | nil =>
      cases hrun
      simpa using h
  | cons token rest ih =>
      rw [Builder.run] at hrun
      split at hrun
      · cases hrun
      · rename_i b₁ htake
        simpa using ih (h.take htake) hrun

/-- A builder without open blocks holds the tree of all tokens. -/
lemma Holds.derives {nodes : List Node} (h : Holds tokens b) (hfinish : b.finish = .ok nodes) :
    Derives tokens nodes := by
  cases h with
  | root h =>
      cases hfinish
      simpa using h
  | first _ _ => cases hfinish
  | second _ _ _ => cases hfinish

/-! ### From a derivation to the builder -/

/-- Adds nodes one after another at the place that is being written. -/
def addAll (b : Builder) (nodes : List Node) : Builder := nodes.foldl (fun b node => b.add node) b

lemma addAll_cons (b : Builder) (node : Node) (nodes : List Node) :
    b.addAll (node :: nodes) = (b.add node).addAll nodes := rfl

lemma addAll_root (added nodes : List Node) :
    addAll ⟨added, []⟩ nodes = ⟨nodes.reverse ++ added, []⟩ := by
  induction nodes generalizing added with
  | nil => rfl
  | cons node nodes ih => simp [addAll_cons, Builder.add, ih]

lemma addAll_first (added : List Node) (kind : BlockKind) (path : Path) (body : List Node)
    (rest : List OpenBlock) (nodes : List Node) :
    addAll ⟨added, ⟨kind, path, body, none⟩ :: rest⟩ nodes =
      ⟨added, ⟨kind, path, nodes.reverse ++ body, none⟩ :: rest⟩ := by
  induction nodes generalizing body with
  | nil => rfl
  | cons node nodes ih => simp [addAll_cons, Builder.add, OpenBlock.add, ih]

lemma addAll_second (added : List Node) (kind : BlockKind) (path : Path)
    (body otherwise : List Node) (rest : List OpenBlock) (nodes : List Node) :
    addAll ⟨added, ⟨kind, path, body, some otherwise⟩ :: rest⟩ nodes =
      ⟨added, ⟨kind, path, body, some (nodes.reverse ++ otherwise)⟩ :: rest⟩ := by
  induction nodes generalizing otherwise with
  | nil => rfl
  | cons node nodes ih => simp [addAll_cons, Builder.add, OpenBlock.add, ih]

/-- Tokens that derive nodes are taken in by adding the nodes. -/
lemma run_of_derives {nodes : List Node} (h : Derives tokens nodes) (b : Builder)
    (rest : List Token) : b.run (tokens ++ rest) = (b.addAll nodes).run rest := by
  induction h generalizing b rest with
  | nil => rfl
  | text _ ih => rw [List.cons_append, run_cons_of_take rfl, ih, addAll_cons]
  | expression _ ih => rw [List.cons_append, run_cons_of_take rfl, ih, addAll_cons]
  | @block kind path first tokens body nodes _ _ ihfirst ih =>
      rw [List.cons_append, run_cons_of_take rfl, List.append_assoc, ihfirst, addAll_first,
        List.cons_append]
      have hclose : take (.tag (.closing kind))
          ⟨b.nodes, ⟨kind, path, body.reverse ++ [], none⟩ :: b.opened⟩ =
            .ok (b.add (.block kind path body [])) := by
        simp [take, Builder.tag, close, OpenBlock.close]
      rw [run_cons_of_take hclose, ih, addAll_cons]
  | @blockElse kind path first second tokens body otherwise nodes _ _ _ ihfirst ihsecond ih =>
      rw [List.cons_append, run_cons_of_take rfl, List.append_assoc, ihfirst, addAll_first,
        List.cons_append, run_cons_of_take rfl, List.append_assoc, ihsecond, addAll_second,
        List.cons_append]
      have hclose : take (.tag (.closing kind)) ⟨b.nodes,
          ⟨kind, path, body.reverse ++ [], some (otherwise.reverse ++ [])⟩ :: b.opened⟩ =
            .ok (b.add (.block kind path body otherwise)) := by
        simp [take, Builder.tag, close, OpenBlock.close]
      rw [run_cons_of_take hclose, ih, addAll_cons]

/-- From nothing, the tokens that lead to a tree are those that derive it. -/
lemma run_empty_iff {nodes : List Node} :
    (∃ b, empty.run tokens = .ok b ∧ b.finish = .ok nodes) ↔ Derives tokens nodes := by
  constructor
  · rintro ⟨b, hrun, hfinish⟩
    exact (Holds.run (.root .nil) hrun).derives hfinish
  · intro h
    have hrun := run_of_derives h empty []
    rw [List.append_nil, empty, addAll_root, run] at hrun
    exact ⟨_, hrun, by simp [finish]⟩

end Builder

/-- No tokens derive two trees. -/
lemma Derives.unique {tokens : List Token} {nodes other : List Node} (h : Derives tokens nodes)
    (hother : Derives tokens other) : other = nodes := by
  obtain ⟨b, hrun, hfinish⟩ := Builder.run_empty_iff.mpr h
  obtain ⟨b', hrun', hfinish'⟩ := Builder.run_empty_iff.mpr hother
  obtain rfl : b = b' := Except.ok.inj (hrun.symm.trans hrun')
  exact Except.ok.inj (hfinish'.symm.trans hfinish)

/-! ## Reading bodies -/

lemma parse_eq_ok_iff {body : String} {nodes : List Node} :
    parse body = .ok nodes ↔
      ∃ pieces b, Cuts body.toList pieces ∧ Builder.empty.pieces pieces = .ok b ∧
        b.finish = .ok nodes := by
  simp only [cuts_iff]
  unfold parse
  constructor
  · intro h
    simp only at h
    split at h
    · cases h
    · rename_i b hb
      split at h
      · cases h
      · rename_i hunclosed
        exact ⟨_, b, by rw [← hunclosed], hb, h⟩
  · rintro ⟨pieces, b, hcut, hpieces, hfinish⟩
    simp [hcut, hpieces, hfinish]

lemma parse_eq_ok_iff_derives {body : String} {nodes : List Node} :
    parse body = .ok nodes ↔ ∃ tokens, Reads body tokens ∧ Derives tokens nodes := by
  simp only [parse_eq_ok_iff, Builder.pieces_ok_iff, Reads, ← Builder.run_empty_iff]
  constructor
  · rintro ⟨pieces, b, hcuts, ⟨tokens, hmeans, hrun⟩, hfinish⟩
    exact ⟨tokens, ⟨pieces, hcuts, hmeans⟩, b, hrun, hfinish⟩
  · rintro ⟨tokens, ⟨pieces, hcuts, hmeans⟩, b, hrun, hfinish⟩
    exact ⟨pieces, b, hcuts, ⟨tokens, hmeans, hrun⟩, hfinish⟩

/-- **A body is read exactly if it follows the grammar.**  Reading succeeds if and only if the body
falls into texts and tags, every tag means something, and the tokens derive from the grammar; the
result is the tree that they derive.  It is the only one, and depth first it gives back all tokens
in order, but for the turns to empty second parts. -/
theorem parse_ok_iff_derives (body : String) (nodes : List Node) :
    (parse body = .ok nodes ↔ ∃ tokens, Reads body tokens ∧ Derives tokens nodes) ∧
      ∀ tokens, Reads body tokens → Derives tokens nodes →
        (∀ other, Derives tokens other → other = nodes) ∧
          tokensOf nodes = withoutEmptyElse tokens :=
  ⟨parse_eq_ok_iff_derives, fun _ _ h =>
    ⟨fun _ hother => h.unique hother, tokensOf_of_derives h⟩⟩

/-- An empty second part leaves a tree without one. -/
theorem parse_ok_iff_derives_emptyElse :
    parse "\x7b\x7b#if a\x7d\x7dx\x7b\x7belse\x7d\x7d\x7b\x7b/if\x7d\x7d" =
        .ok [.block .cond ⟨.root, [.key "a"]⟩ [.text "x"] []] ∧
      tokensOf [.block .cond ⟨.root, [.key "a"]⟩ [.text "x"] []] =
        [.tag (.opening .cond ⟨.root, [.key "a"]⟩), .text "x", .tag (.closing .cond)] := by
  have hopening : Tag.Spells (Text.trim "#if a".toList) (.opening .cond ⟨.root, [.key "a"]⟩) := by
    have hpath : Path.parse (String.ofList ['a']) = .ok ⟨.root, [.key "a"]⟩ := by
      rw [Path.parse_eq_ok_iff]
      decide +kernel
    have hspells : Tag.Spells ('#' :: (BlockKind.cond.keyword.toList ++ ' ' :: ['a'])) _ :=
      .opening (by decide) hpath
    exact hspells
  have hotherwise : Tag.Spells (Text.trim "else".toList) .otherwise := .otherwise
  have hclosing : Tag.Spells (Text.trim "/if".toList) (.closing .cond) := .closing rfl
  have hreads : Reads "\x7b\x7b#if a\x7d\x7dx\x7b\x7belse\x7d\x7d\x7b\x7b/if\x7d\x7d"
      [.tag (.opening .cond ⟨.root, [.key "a"]⟩), .text "x", .tag .otherwise,
        .tag (.closing .cond)] :=
    ⟨[.tag "#if a".toList, .text ['x'], .tag "else".toList, .tag "/if".toList],
      cuts_iff.mpr (by decide +kernel),
      .cons (.tag hopening) <| .cons (.text _) <| .cons (.tag hotherwise) <|
        .cons (.tag hclosing) .nil⟩
  have hderives : Derives [.tag (.opening .cond ⟨.root, [.key "a"]⟩), .text "x", .tag .otherwise,
      .tag (.closing .cond)] [.block .cond ⟨.root, [.key "a"]⟩ [.text "x"] []] :=
    .blockElse (.text .nil) .nil .nil
  have h := parse_ok_iff_derives "\x7b\x7b#if a\x7d\x7dx\x7b\x7belse\x7d\x7d\x7b\x7b/if\x7d\x7d"
    [.block .cond ⟨.root, [.key "a"]⟩ [.text "x"] []]
  exact ⟨h.1.mpr ⟨_, hreads, hderives⟩, (h.2 _ hreads hderives).2⟩
end Docket.Template
