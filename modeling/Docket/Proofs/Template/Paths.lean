import Docket.Proofs.Template.Grammar

/-!
# The paths of a body

`pathsOf` lists the paths of a tree, `outerPathsOf` those that stand outside the bodies of its
loops.  In the tree of a body every path has been read, so that it is well-formed
(`wellFormed_of_parse`).
-/

namespace Docket.Template

mutual

/-- The paths of a node. -/
def Node.paths : Node → List Path
  | .text _ => []
  | .expr e => [e.path]
  | .block _ path body otherwise => path :: (pathsOf body ++ pathsOf otherwise)

/-- The paths of a tree. -/
def pathsOf : List Node → List Path
  | [] => []
  | node :: rest => node.paths ++ pathsOf rest

end

mutual

/-- The paths of a node that stand outside the bodies of its loops. What a loop runs over, and what
it shows if there is nothing, are outside. -/
def Node.outerPaths : Node → List Path
  | .text _ => []
  | .expr e => [e.path]
  | .block .cond path body otherwise => path :: (outerPathsOf body ++ outerPathsOf otherwise)
  | .block .loop path _ otherwise => path :: outerPathsOf otherwise

/-- The paths of a tree that stand outside the bodies of its loops. -/
def outerPathsOf : List Node → List Path
  | [] => []
  | node :: rest => node.outerPaths ++ outerPathsOf rest

end

lemma mem_pathsOf {nodes : List Node} {node : Node} (hnode : node ∈ nodes) {p : Path}
    (hp : p ∈ node.paths) : p ∈ pathsOf nodes := by
  induction nodes with
  | nil => cases hnode
  | cons first rest ih =>
      rw [pathsOf, List.mem_append]
      rcases List.mem_cons.mp hnode with rfl | hrest
      · exact .inl hp
      · exact .inr (ih hrest)

/-! ## Paths that have been read -/

/-- The path of a token. -/
def Token.path? : Token → Option Path
  | .tag (.expression e) => some e.path
  | .tag (.opening _ path) => some path
  | _ => none

lemma path_of_readExpression {cs : List Char} {e : Expression} (h : readExpression cs = .ok e) :
    ∃ raw, Path.parse raw = .ok e.path := by
  unfold readExpression at h
  split at h
  · cases h
  · split at h
    · cases h
    · rename_i p hp
      split at h
      · cases h
      · cases h
        exact ⟨_, hp⟩

lemma Tag.Spells.path {cs : List Char} {t : Tag} (h : Tag.Spells cs t) {p : Path}
    (hp : (Token.tag t).path? = some p) : ∃ raw, Path.parse raw = .ok p := by
  cases h with
  | expression _ he =>
      cases hp
      exact path_of_readExpression he
  | opening _ hpath =>
      cases hp
      exact ⟨_, hpath⟩
  | otherwise => cases hp
  | otherwiseDirective => cases hp
  | closing _ => cases hp

lemma Piece.Means.wellFormed {piece : Piece} {token : Token} (h : piece.Means token) {p : Path}
    (hp : token.path? = some p) : p.WellFormed := by
  cases h with
  | text cs => cases hp
  | tag hspells =>
      obtain ⟨raw, hraw⟩ := hspells.path hp
      exact Path.parse?_wellFormed (Path.parse_eq_ok_iff.mp hraw)

lemma Reads.wellFormed {body : String} {tokens : List Token} (h : Reads body tokens)
    {token : Token} (htoken : token ∈ tokens) {p : Path} (hp : token.path? = some p) :
    p.WellFormed := by
  obtain ⟨pieces, -, hmeans⟩ := h
  induction hmeans with
  | nil => cases htoken
  | cons hfirst _ ih =>
      rcases List.mem_cons.mp htoken with rfl | hrest
      · exact hfirst.wellFormed hp
      · exact ih hrest

/-- Every path of a tree stands in one of the tokens that derive it. -/
lemma Derives.exists_path {tokens : List Token} {nodes : List Node} (h : Derives tokens nodes)
    {p : Path} (hp : p ∈ pathsOf nodes) : ∃ token ∈ tokens, token.path? = some p := by
  induction h with
  | nil => cases hp
  | text _ ih =>
      obtain ⟨token, htoken, hpath⟩ := ih (by simpa [pathsOf, Node.paths] using hp)
      exact ⟨token, List.mem_cons_of_mem _ htoken, hpath⟩
  | expression _ ih =>
      simp only [pathsOf, Node.paths, List.singleton_append, List.mem_cons] at hp
      rcases hp with rfl | hp
      · exact ⟨_, List.mem_cons_self, rfl⟩
      · obtain ⟨token, htoken, hpath⟩ := ih hp
        exact ⟨token, List.mem_cons_of_mem _ htoken, hpath⟩
  | block _ _ ihbody ih =>
      simp only [pathsOf, Node.paths, List.append_nil, List.cons_append, List.mem_cons,
        List.mem_append] at hp
      rcases hp with rfl | hp | hp
      · exact ⟨_, List.mem_cons_self, rfl⟩
      · obtain ⟨token, htoken, hpath⟩ := ihbody hp
        exact ⟨token, by simp [htoken], hpath⟩
      · obtain ⟨token, htoken, hpath⟩ := ih hp
        exact ⟨token, by simp [htoken], hpath⟩
  | blockElse _ _ _ ihbody ihotherwise ih =>
      simp only [pathsOf, Node.paths, List.cons_append, List.mem_cons, List.mem_append] at hp
      rcases hp with rfl | (hp | hp) | hp
      · exact ⟨_, List.mem_cons_self, rfl⟩
      · obtain ⟨token, htoken, hpath⟩ := ihbody hp
        exact ⟨token, by simp [htoken], hpath⟩
      · obtain ⟨token, htoken, hpath⟩ := ihotherwise hp
        exact ⟨token, by simp [htoken], hpath⟩
      · obtain ⟨token, htoken, hpath⟩ := ih hp
        exact ⟨token, by simp [htoken], hpath⟩

/-- **All paths of a body are well-formed.** -/
lemma wellFormed_of_parse {text : String} {nodes : List Node} (h : parse text = .ok nodes) :
    ∀ p ∈ pathsOf nodes, p.WellFormed := by
  obtain ⟨tokens, hreads, hderives⟩ := parse_eq_ok_iff_derives.mp h
  intro p hp
  obtain ⟨token, htoken, hpath⟩ := hderives.exists_path hp
  exact hreads.wellFormed htoken hpath

end Docket.Template
