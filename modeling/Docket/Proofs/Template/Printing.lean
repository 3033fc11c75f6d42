import Docket.Proofs.Template.Arguments
import Docket.Proofs.Template.Grammar

/-!
# Printing bodies

`printed` writes a tree as a body: its tokens depth first, texts as they are and tags between
braces.  A body so written is read back as the tree (`parse_printed`), if the tree is one that a
body can have at all (`Printable`): paths are such that their display is read back, filters have an
allowed number of plain arguments, and no text runs into what stands next to it.

Each part of a tag is read back from what is written for it: arguments (in `Arguments`), filters
(`readFilter_chars`), expressions (`readExpression_chars`), tags (`spells_chars`).  Between them
stand marks that no part contains outside quotes, and no part contains the braces that close a tag
(`Enclosable`).  So the pieces of the body are the tokens of the tree (`cuts_printed`), and these
derive it.
-/

namespace Docket.Template

/-! ## Printing -/

/-- A filter as it is written, its arguments in parentheses.  Without arguments the parentheses may
be left out; `bare` says whether they are. -/
def FilterCall.chars (bare : Bool) (call : FilterCall) : List Char :=
  call.filter.name.toList ++
    if bare && call.args.isEmpty then []
    else '(' :: ([',', ' '].intercalate (call.args.map argumentChars) ++ [')'])

/-- An expression as it is written, with bars between the path and the filters. -/
def Expression.chars (bare : Bool) (e : Expression) : List Char :=
  [' ', '|', ' '].intercalate (e.path.display.toList :: e.filters.map (FilterCall.chars bare))

/-- What is written between the braces of a tag. -/
def Tag.chars (bare : Bool) : Tag → List Char
  | .expression e => e.chars bare
  | .opening kind path => '#' :: (kind.keyword.toList ++ ' ' :: path.display.toList)
  | .otherwise => '#' :: elseKeyword
  | .closing kind => '/' :: kind.keyword.toList

/-- A token as it is written. -/
def Token.chars (bare : Bool) : Token → List Char
  | .text s => s.toList
  | .tag t => openingBraces ++ t.chars bare ++ closingBraces

/-- A tree as a body. -/
def printed (bare : Bool) (nodes : List Node) : String :=
  String.ofList ((tokensOf nodes).flatMap (Token.chars bare))

/-! ## Trees that a body can have -/

/-- A filter with an allowed number of plain arguments. -/
structure FilterCall.Printable (call : FilterCall) : Prop where
  accepted : call.filter.accepts call.args.length
  plain : ∀ v ∈ call.args, PlainArgument v

/-- An expression that is not the bare word `else`. -/
structure Expression.Printable (e : Expression) : Prop where
  path : e.path.Printable
  filters : ∀ call ∈ e.filters, call.Printable
  notElse : e.filters = [] → e.path ≠ ⟨.root, [.key "else"]⟩

/-- A text that is not empty and has no opening braces, or a tag whose parts can be printed. -/
def Token.Printable : Token → Prop
  | .text s => s ≠ "" ∧ ¬ openingBraces <:+: s.toList
  | .tag (.expression e) => e.Printable
  | .tag (.opening _ path) => path.Printable
  | .tag .otherwise => True
  | .tag (.closing _) => True

/-- `token.Precedes next`: one may stand right before the other.  Before a text stands a tag, and a
text before a tag does not end with a brace. -/
def Token.Precedes : Token → Token → Prop
  | .text s, next => (∃ t, next = .tag t) ∧ s.toList.getLast? ≠ some '\x7b'
  | .tag _, _ => True

/-- A tree that a body can have: in the order of the body, all tokens can be printed, and each may
stand before the next. -/
structure Printable (nodes : List Node) : Prop where
  tokens : ∀ token ∈ tokensOf nodes, token.Printable
  neighbours : (tokensOf nodes).IsChain Token.Precedes

/-! ## Texts between braces -/

/-- A text that can stand between braces: written behind it, closing braces are the first ones. -/
def Enclosable (cs : List Char) : Prop := ¬ closingBraces <:+: cs ++ ['\x7d']

lemma enclosable_of_not_mem {cs : List Char} (h : '\x7d' ∉ cs) : Enclosable cs :=
  not_pair_concat_of_not_mem h

lemma Word.enclosable {cs : List Char} (h : Word cs) : Enclosable cs :=
  enclosable_of_not_mem (h.not_mem (by decide))

lemma Enclosable.append {a b : List Char} (ha : Enclosable a) (hb : Enclosable b) :
    Enclosable (a ++ b) := by
  rw [Enclosable, List.append_assoc]
  exact not_pair_append_of_concat ha hb

/-- Quotes part the braces that a text may start or end with from those outside. -/
lemma enclosable_quoted {cs : List Char} (h : ¬ closingBraces <:+: cs) :
    Enclosable ('"' :: (cs ++ ['"'])) := by
  have hquote : Enclosable ['"'] := enclosable_of_not_mem (by decide)
  have hbehind : ¬ closingBraces <:+: cs ++ ['"', '\x7d'] :=
    not_pair_append h hquote (.inr (by decide))
  have hbefore : ¬ closingBraces <:+: ['"'] := not_pair_singleton _ _
  have hall : ¬ closingBraces <:+: ['"'] ++ (cs ++ ['"', '\x7d']) :=
    not_pair_append hbefore hbehind (.inl (by decide))
  simpa [Enclosable] using hall

lemma PlainArgument.enclosable {v : Value} (h : PlainArgument v) :
    Enclosable (argumentChars v) := by
  cases v with
  | text s => exact enclosable_quoted h.2
  | _ => exact (h.word (by simp)).enclosable

/-- A part of an expression: it can stand between bars and inside braces. -/
structure Part (cs : List Char) : Prop where
  isSealed : Sealed '|' cs
  enclosable : Enclosable cs

lemma Part.append {a b : List Char} (ha : Part a) (hb : Part b) : Part (a ++ b) :=
  ⟨ha.isSealed.append hb.isSealed, ha.enclosable.append hb.enclosable⟩

lemma Part.intercalate {mark : List Char} {pieces : List (List Char)} (hmark : Part mark)
    (h : ∀ piece ∈ pieces, Part piece) : Part (mark.intercalate pieces) :=
  intercalate_of_append ⟨rfl, enclosable_of_not_mem (by simp)⟩ Part.append hmark h

lemma Word.part {cs : List Char} (h : Word cs) : Part cs :=
  ⟨h.isSealed (by decide), h.enclosable⟩

/-! ## Filters -/

variable {bare : Bool}

lemma word_name (filter : Filter) : Word filter.name.toList := by
  cases filter <;> exact word_of_all (by decide) (by decide +kernel)

lemma ofName?_name (filter : Filter) : Filter.ofName? filter.name = some filter := by
  cases filter <;> decide +kernel

/-- What stands between trimmed texts does not matter for the ends. -/
lemma trimmed_intercalate (mark : List Char) {pieces : List (List Char)} (hne : pieces ≠ [])
    (h : ∀ piece ∈ pieces, Text.Trimmed piece ∧ piece ≠ []) :
    Text.Trimmed (mark.intercalate pieces) ∧ mark.intercalate pieces ≠ [] := by
  match pieces with
  | [piece] => simpa using h
  | piece :: next :: rest =>
      obtain ⟨⟨hpiece, hpiece'⟩, hrest⟩ := List.forall_mem_cons.mp h
      obtain ⟨htail, htail'⟩ := trimmed_intercalate mark (List.cons_ne_nil _ _) hrest
      rw [List.intercalate_cons_cons]
      exact ⟨hpiece.append hpiece' htail htail' mark, by simp [hpiece']⟩

lemma isBlank_of_mem_blank : ∀ c ∈ [' '], Text.isBlank c := List.forall_mem_singleton.mpr rfl

lemma FilterCall.trimmed_chars (call : FilterCall) :
    Text.Trimmed (call.chars bare) ∧ call.chars bare ≠ [] := by
  have hname := word_name call.filter
  unfold FilterCall.chars
  split
  · rw [List.append_nil]
    exact ⟨hname.trimmed, hname.1⟩
  · have hclosed : Text.Trimmed [')'] := Text.trimmed_of_all (by decide)
    rw [← List.cons_append, ← List.append_assoc]
    exact ⟨hname.trimmed.append hname.1 hclosed (by simp) _, by simp⟩

lemma ne_parenthesis (filter : Filter) : ∀ c ∈ filter.name.toList, (c == '(') = false := by
  intro c hc
  refine beq_eq_false_iff_ne.mpr ?_
  rintro rfl
  exact (word_name filter).not_mem (by decide) hc

/-- What stands between the parentheses behind a filter's name is split at its commas and read. -/
lemma splitCall?_parentheses (filter : Filter) (inner : List Char) :
    splitCall? (filter.name.toList ++ '(' :: (inner ++ [')'])) =
      some (filter.name.toList,
        if (Text.trim inner).isEmpty then []
        else (splitOutsideQuotes ',' inner).map readArgument) := by
  have hinner : beforeParenthesis? (inner ++ [')']) = some inner := by
    have htrim : Text.trimEnd (inner ++ [')']) = inner ++ [')'] := by
      rw [Text.trimEnd_eq_self_iff, List.getLast?_concat]
      rintro c ⟨⟩
      decide
    simp [beforeParenthesis?, htrim]
  rw [splitCall?, Text.splitOnce_append (ne_parenthesis filter) (by decide)]
  simp only [hinner, Option.map_some, Text.trim_of_trimmed (word_name filter).trimmed]

variable {call : FilterCall}

/-- A text with a filter's name and an allowed number of arguments is read as that filter. -/
lemma readFilter_of_splitCall? {raw : List Char}
    (hraw : splitCall? (Text.trim raw) = some (call.filter.name.toList, call.args))
    (haccepted : call.filter.accepts call.args.length) (expression : List Char) :
    readFilter expression raw = .ok call := by
  have hname : call.filter.name.toList ≠ [] := (word_name call.filter).1
  simp [readFilter, hraw, hname, ofName?_name, haccepted]

namespace FilterCall.Printable

lemma arguments (h : call.Printable) :
    ∀ piece ∈ call.args.map argumentChars,
      Sealed ',' piece ∧ Text.Trimmed piece ∧ piece ≠ [] := by
  intro piece hpiece
  obtain ⟨v, hv, rfl⟩ := List.mem_map.mp hpiece
  have hplain := h.plain v hv
  exact ⟨hplain.isSealed (by decide), trimmed_argumentChars hplain, argumentChars_ne_nil hplain⟩

/-- Arguments between parentheses are read back. -/
lemma readArguments (h : call.Printable) :
    (let inner := [',', ' '].intercalate (call.args.map argumentChars)
     if (Text.trim inner).isEmpty then [] else (splitOutsideQuotes ',' inner).map readArgument) =
      call.args := by
  by_cases hnil : call.args = []
  · simp [hnil]
  · have hne : call.args.map argumentChars ≠ [] := by simpa using hnil
    obtain ⟨htrimmed, hinner⟩ :=
      trimmed_intercalate [',', ' '] hne fun piece hpiece => (h.arguments piece hpiece).2
    have hsplit : (splitOutsideQuotes ','
        (([] ++ ',' :: [' ']).intercalate (call.args.map argumentChars))).map Text.trim = _ :=
      map_trim_splitOutsideQuotes (by decide) (by simp) isBlank_of_mem_blank rfl rfl h.arguments hne
    have hread : readArgument ∘ Text.trim = readArgument := funext readArgument_trim
    have hargs := congrArg (List.map readArgument) hsplit
    rw [List.map_map, hread, List.map_map] at hargs
    have hback : call.args.map (readArgument ∘ argumentChars) = call.args := by
      refine (List.map_congr_left fun v hv => ?_).trans (List.map_id _)
      exact readArgument_argumentChars (h.plain v hv)
    simp only [Text.trim_of_trimmed htrimmed, List.isEmpty_iff, hinner, if_false]
    exact hargs.trans hback

lemma splitCall?_chars (h : call.Printable) :
    splitCall? (call.chars bare) = some (call.filter.name.toList, call.args) := by
  unfold FilterCall.chars
  split
  · rename_i hbare
    simp only [Bool.and_eq_true, List.isEmpty_iff] at hbare
    rw [List.append_nil, splitCall?, Text.splitOnce_eq_none_iff.mpr (ne_parenthesis call.filter),
      hbare.2]
  · rw [splitCall?_parentheses, h.readArguments]

/-- **A filter is read back** from what is written for it, white space around it aside. -/
lemma readFilter_chars (h : call.Printable) (expression : List Char) {raw : List Char}
    (hraw : Text.trim raw = call.chars bare) : readFilter expression raw = .ok call :=
  readFilter_of_splitCall? (hraw ▸ h.splitCall?_chars) h.accepted expression

/-- A filter as it is written is a part of an expression. -/
lemma part_chars (h : call.Printable) : Part (call.chars bare) := by
  have hname : Part call.filter.name.toList := (word_name call.filter).part
  have hargs : ∀ piece ∈ call.args.map argumentChars, Part piece := by
    intro piece hpiece
    obtain ⟨v, hv, rfl⟩ := List.mem_map.mp hpiece
    exact ⟨(h.plain v hv).isSealed (by decide), (h.plain v hv).enclosable⟩
  have hcomma : Part [',', ' '] := ⟨rfl, enclosable_of_not_mem (by decide)⟩
  have hopened : Part ['('] := ⟨rfl, enclosable_of_not_mem (by decide)⟩
  have hclosed : Part [')'] := ⟨rfl, enclosable_of_not_mem (by decide)⟩
  unfold FilterCall.chars
  split
  · rwa [List.append_nil]
  · exact hname.append (hopened.append ((Part.intercalate hcomma hargs).append hclosed))

end FilterCall.Printable

/-! ## Expressions -/

lemma word_display {p : Path} (h : p.Printable) : Word p.display.toList := by
  refine ⟨fun hnil => ?_, Path.isPathChar_of_mem_display h.wellFormed⟩
  have hread := h.parse?_display
  rw [← String.ofList_toList (s := p.display), hnil, Path.parse?_empty] at hread
  cases hread

/-- Filters are read back from pieces that are what is written for them. -/
lemma readFilters_chars {calls : List FilterCall} (h : ∀ call ∈ calls, call.Printable)
    (expression : List Char) {raws : List (List Char)}
    (hraws : raws.map Text.trim = calls.map (FilterCall.chars bare)) :
    readFilters expression raws = .ok calls := by
  induction calls generalizing raws with
  | nil =>
      obtain rfl : raws = [] := by simpa using hraws
      rfl
  | cons call calls ih =>
      obtain ⟨raw, rest, rfl, hraw, hrest⟩ := List.map_eq_cons_iff.mp hraws
      obtain ⟨hcall, hcalls⟩ := List.forall_mem_cons.mp h
      simp [readFilters, hcall.readFilter_chars expression hraw, ih hcalls hrest]

variable {e : Expression}

namespace Expression.Printable

/-- The path and the filters of an expression, as they are written. -/
lemma parts (h : e.Printable) :
    ∀ piece ∈ e.path.display.toList :: e.filters.map (FilterCall.chars bare),
      Part piece ∧ Text.Trimmed piece ∧ piece ≠ [] := by
  have hpath := word_display h.path
  refine List.forall_mem_cons.mpr ⟨⟨hpath.part, hpath.trimmed, hpath.1⟩, fun piece hpiece => ?_⟩
  obtain ⟨call, hcall, rfl⟩ := List.mem_map.mp hpiece
  exact ⟨(h.filters call hcall).part_chars, call.trimmed_chars⟩

lemma enclosable_chars (h : e.Printable) : Enclosable (e.chars bare) :=
  intercalate_of_append (enclosable_of_not_mem (by simp)) Enclosable.append
    (enclosable_of_not_mem (by decide)) fun piece hpiece => (h.parts piece hpiece).1.enclosable

lemma trimmed_chars (h : e.Printable) : Text.Trimmed (e.chars bare) :=
  (trimmed_intercalate _ (List.cons_ne_nil _ _) fun piece hpiece => (h.parts piece hpiece).2).1

/-- **An expression is read back** from what is written for it. -/
lemma readExpression_chars (h : e.Printable) : readExpression (e.chars bare) = .ok e := by
  have hsplit : (splitOutsideQuotes '|' (([' '] ++ '|' :: [' ']).intercalate
      (e.path.display.toList :: e.filters.map (FilterCall.chars bare)))).map Text.trim = _ :=
    map_trim_splitOutsideQuotes (by decide) isBlank_of_mem_blank isBlank_of_mem_blank rfl rfl
      (fun piece hpiece => ⟨(h.parts piece hpiece).1.isSealed, (h.parts piece hpiece).2⟩)
      (List.cons_ne_nil _ _)
  obtain ⟨path, filters, heq, hpath, hfilters⟩ := List.map_eq_cons_iff.mp hsplit
  have hparse : Path.parse (String.ofList path) = .ok e.path := by
    rw [Path.parse_eq_ok_iff, ← Path.parse?_trim, hpath, String.ofList_toList]
    exact h.path.parse?_display
  have hchars : splitOutsideQuotes '|' (e.chars bare) = path :: filters := heq
  simp [readExpression, hchars, hparse, readFilters_chars h.filters _ hfilters]

/-- Only the path `else` without filters is written like the turn to a second part. -/
lemma chars_ne_elseKeyword (h : e.Printable) : e.chars bare ≠ elseKeyword := by
  intro heq
  by_cases hfilters : e.filters = []
  · have hdisplay : e.path.display.toList = elseKeyword := by
      simpa [Expression.chars, hfilters] using heq
    have hread := h.path.parse?_display
    have helse : Path.parse? (String.ofList elseKeyword) = some ⟨.root, [.key "else"]⟩ := by
      decide +kernel
    rw [← String.ofList_toList (s := e.path.display), hdisplay, helse] at hread
    exact h.notElse hfilters (Option.some.inj hread).symm
  · obtain ⟨call, calls, hcalls⟩ := List.exists_cons_of_ne_nil hfilters
    have hbar : '|' ∈ e.chars bare := by
      rw [Expression.chars, hcalls, List.map_cons, List.intercalate_cons_cons]
      simp
    rw [heq] at hbar
    exact absurd hbar (by decide)

end Expression.Printable

/-! ## Tags -/

variable {t : Tag}

lemma trimmed_keyword (kind : BlockKind) : Text.Trimmed kind.keyword.toList :=
  Text.trimmed_of_forall (isBlank_of_mem_keyword kind)

/-- **A tag is spelled** by what is written for it. -/
lemma spells_chars (h : (Token.tag t).Printable) : Tag.Spells (Text.trim (t.chars bare)) t := by
  match t, h with
  | .expression e, h =>
      rw [Tag.chars, Text.trim_of_trimmed h.trimmed_chars]
      exact .expression h.chars_ne_elseKeyword h.readExpression_chars
  | .opening kind path, h =>
      have hpath := word_display h
      have hparse : Path.parse (String.ofList path.display.toList) = .ok path := by
        rw [Path.parse_eq_ok_iff, String.ofList_toList]
        exact h.parse?_display
      have htrimmed : Text.Trimmed (['#'] ++ (kind.keyword.toList ++ [' ']) ++
          path.display.toList) :=
        Text.Trimmed.append (Text.trimmed_of_all (by decide)) (by simp) hpath.trimmed hpath.1 _
      have hshape : (Tag.opening kind path).chars bare =
          ['#'] ++ (kind.keyword.toList ++ [' ']) ++ path.display.toList := by simp [Tag.chars]
      rw [hshape, Text.trim_of_trimmed htrimmed, ← hshape]
      exact .opening (by decide) hparse
  | .otherwise, _ =>
      have htrimmed : Text.Trimmed ('#' :: elseKeyword) := Text.trimmed_of_all (by decide)
      rw [Tag.chars, Text.trim_of_trimmed htrimmed]
      exact .otherwiseDirective
  | .closing kind, _ =>
      have htrimmed : Text.Trimmed ((Tag.closing kind).chars bare) :=
        Text.trimmed_of_forall
          (List.forall_mem_cons.mpr ⟨by decide, isBlank_of_mem_keyword kind⟩)
      rw [Text.trim_of_trimmed htrimmed]
      exact .closing (Text.trim_of_trimmed (trimmed_keyword kind))

lemma enclosable_keyword (kind : BlockKind) : Enclosable kind.keyword.toList :=
  enclosable_of_not_mem (by cases kind <;> decide)

/-- What is written for a tag does not close it. -/
lemma enclosable_chars (h : (Token.tag t).Printable) : Enclosable (t.chars bare) := by
  match t, h with
  | .expression e, h => exact h.enclosable_chars
  | .opening kind path, h =>
      have hopened : Enclosable ['#'] := enclosable_of_not_mem (by decide)
      have hblank : Enclosable [' '] := enclosable_of_not_mem (by decide)
      have hall := hopened.append ((enclosable_keyword kind).append
        (hblank.append (word_display h).enclosable))
      simpa [Tag.chars] using hall
  | .otherwise, _ => exact enclosable_of_not_mem (by simp only [Tag.chars]; decide)
  | .closing kind, _ =>
      have hopened : Enclosable ['/'] := enclosable_of_not_mem (by decide)
      exact hopened.append (enclosable_keyword kind)

/-! ## Bodies -/

/-- The piece that a token is written as. -/
def Token.piece (bare : Bool) : Token → Piece
  | .text s => .text s.toList
  | .tag t => .tag (t.chars bare)

lemma means_piece {token : Token} (h : token.Printable) : (token.piece bare).Means token := by
  cases token with
  | text s =>
      have hmeans := Piece.Means.text s.toList
      rwa [String.ofList_toList] at hmeans
  | tag t => exact .tag (spells_chars h)

/-- **Printed tokens are the pieces** of what is printed. -/
lemma cuts_printed {tokens : List Token} (hprintable : ∀ token ∈ tokens, token.Printable)
    (hneighbours : tokens.IsChain Token.Precedes) :
    Cuts (tokens.flatMap (Token.chars bare)) (tokens.map (Token.piece bare)) := by
  match tokens with
  | [] => exact .text (by simp [openingBraces])
  | [.text s] =>
      obtain ⟨hne, hopening⟩ : Token.Printable (.text s) := hprintable _ (by simp)
      have hcuts := Cuts.text hopening
      have hne' : s.toList ≠ [] := by simpa using hne
      simpa [Piece.ofText, hne', Token.chars, Token.piece] using hcuts
  | .tag t :: rest =>
      obtain ⟨ht, hrest⟩ := List.forall_mem_cons.mp hprintable
      have hcuts := cuts_printed hrest hneighbours.tail
      simpa [Token.chars, Token.piece] using Cuts.cons_tag (enclosable_chars ht) hcuts
  | .text s :: .tag t :: rest =>
      obtain ⟨⟨hne, hopening⟩, ht, hrest⟩ := by
        simpa only [List.forall_mem_cons] using hprintable
      obtain ⟨⟨-, hlast⟩, htail⟩ := List.isChain_cons_cons.mp hneighbours
      have hcuts := cuts_printed hrest htail.tail
      have hbefore : ¬ openingBraces <:+: s.toList ++ ['\x7b'] :=
        not_pair_append hopening (not_pair_singleton _ _) (.inl hlast)
      have hne' : s.toList ≠ [] := by simpa using hne
      simpa [Piece.ofText, hne', Token.chars, Token.piece] using
        Cuts.tag hbefore (enclosable_chars ht) hcuts
  | .text s :: .text s' :: rest =>
      obtain ⟨⟨⟨t, ht⟩, -⟩, -⟩ := List.isChain_cons_cons.mp hneighbours
      cases ht

/-- What is printed is read as the tokens of the tree. -/
lemma reads_printed {nodes : List Node} (h : Printable nodes) :
    Reads (printed bare nodes) (tokensOf nodes) := by
  refine ⟨(tokensOf nodes).map (Token.piece bare), ?_, ?_⟩
  · rw [printed, String.toList_ofList]
    exact cuts_printed h.tokens h.neighbours
  · rw [List.forall₂_map_left_iff, List.forall₂_same]
    exact fun token htoken => means_piece (h.tokens token htoken)

/-- **Printing and reading is the identity.**  Every tree that a body can have is read back from the
body that it is printed as, whatever its texts, paths, filters and arguments, and however deep its
blocks. -/
theorem parse_printed (bare : Bool) {nodes : List Node} (h : Printable nodes) :
    parse (printed bare nodes) = .ok nodes :=
  parse_eq_ok_iff_derives.mpr ⟨tokensOf nodes, reads_printed h, derives_tokensOf nodes⟩

example : printed false [.block .cond ⟨.this, []⟩
      [.expr ⟨⟨.root, [.key "a", .index 0]⟩, [⟨.upper, []⟩, ⟨.default, [.text "b"]⟩]⟩] []] =
    "\x7b\x7b#if this\x7d\x7d\x7b\x7ba[0] | upper() | default(\"b\")\x7d\x7d\x7b\x7b/if\x7d\x7d" := by
  decide +kernel

/-- A tree with a block, a text in quotes that is full of marks, and a brace at the end. -/
theorem parse_printed_marks :
    parse (printed true
        [.text "Tags: ", .expr ⟨⟨.root, [.key "items", .index 0]⟩, [⟨.join, [.text "|), (\n"]⟩]⟩,
          .block .loop ⟨.this, [.index 2]⟩ [.text "\x7d"] [.expr ⟨⟨.last, []⟩, []⟩],
          .text "\x7b"]) =
      .ok
        [.text "Tags: ", .expr ⟨⟨.root, [.key "items", .index 0]⟩, [⟨.join, [.text "|), (\n"]⟩]⟩,
          .block .loop ⟨.this, [.index 2]⟩ [.text "\x7d"] [.expr ⟨⟨.last, []⟩, []⟩],
          .text "\x7b"] := by
  have hitems : Path.Printable ⟨.root, [.key "items", .index 0]⟩ :=
    ⟨⟨"items[0]", Path.parse_eq_ok_iff.mpr (by decide +kernel)⟩, by simp⟩
  have hthis : Path.Printable ⟨.this, [.index 2]⟩ :=
    ⟨⟨"this.2", Path.parse_eq_ok_iff.mpr (by decide +kernel)⟩, by simp⟩
  have hlast : Path.Printable ⟨.last, []⟩ :=
    ⟨⟨"@last", Path.parse_eq_ok_iff.mpr (by decide +kernel)⟩, by simp⟩
  have hjoin : FilterCall.Printable ⟨.join, [.text "|), (\n"]⟩ :=
    ⟨by decide, by simp only [List.forall_mem_singleton, PlainArgument]; decide⟩
  refine parse_printed true ⟨?_, ?_⟩
  · simp only [tokensOf, Node.tokens, List.cons_append, List.nil_append, List.forall_mem_cons,
      Token.Printable]
    exact ⟨by decide, ⟨hitems, by simpa using hjoin, by simp⟩, hthis, by decide, trivial,
      ⟨hlast, by simp, by simp⟩, trivial, by decide, by simp⟩
  · simp [tokensOf, Node.tokens, Token.Precedes]

end Docket.Template
