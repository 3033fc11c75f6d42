import Docket.Proofs.Path.Characters
import Docket.Proofs.Rendering.Joining
import Docket.Proofs.Template.Printing

/-!
# A separator written with a loop

A list can be shown with a separator between its items in two ways: by a loop that writes the
separator behind every item but the last (`loopBody`), and by the filter `join` (`joinBody`).  Both
bodies can be read for every path and for every separator without double quotes and braces
(`parse_loopBody`, `parse_joinBody`), and both render to the displayed items with the separator
between them (`renderBody_loop_eq_join`).

The loop knows its last round by counting.  `renderRounds_separated` carries the count through the
rounds: as many rounds are behind as `index` says, and as many are to come as there are items left.
-/

namespace Docket.Template

open Rendering

/-! ## Bodies with tags end to end -/

/-- What a text means between two tags: itself, and nothing if it is empty. -/
def Token.ofText (cs : List Char) : List Token := if cs = [] then [] else [.text (String.ofList cs)]

lemma means_ofText (cs : List Char) :
    List.Forall₂ Piece.Means (Piece.ofText cs) (Token.ofText cs) := by
  by_cases hcs : cs = []
  · simp [Piece.ofText, Token.ofText, hcs]
  · simpa [Piece.ofText, Token.ofText, hcs] using Piece.Means.text cs

variable {before inner rest : List Char} {t : Tag} {tokens : List Token}

/-- A text and a tag in front of a body are read as they would be alone. -/
lemma Reads.text_tag (hbefore : ¬ openingBraces <:+: before ++ ['\x7b']) (hinner : Enclosable inner)
    (hspells : Tag.Spells (Text.trim inner) t) (h : Reads (String.ofList rest) tokens) :
    Reads (String.ofList (before ++ openingBraces ++ inner ++ closingBraces ++ rest))
      (Token.ofText before ++ .tag t :: tokens) := by
  obtain ⟨pieces, hcuts, hmeans⟩ := h
  rw [String.toList_ofList] at hcuts
  refine ⟨Piece.ofText before ++ .tag inner :: pieces, ?_, ?_⟩
  · rw [String.toList_ofList]
    exact .tag hbefore hinner hcuts
  · exact List.rel_append (means_ofText before) (.cons (.tag hspells) hmeans)

lemma Reads.cons_tag (hinner : Enclosable inner) (hspells : Tag.Spells (Text.trim inner) t)
    (h : Reads (String.ofList rest) tokens) :
    Reads (String.ofList (openingBraces ++ inner ++ closingBraces ++ rest)) (.tag t :: tokens) := by
  have hbefore : ¬ openingBraces <:+: [] ++ ['\x7b'] := not_pair_singleton _ _
  simpa [Token.ofText] using Reads.text_tag hbefore hinner hspells h

lemma Reads.cons_printed (ht : (Token.tag t).Printable) (h : Reads (String.ofList rest) tokens) :
    Reads (String.ofList (openingBraces ++ t.chars false ++ closingBraces ++ rest))
      (.tag t :: tokens) :=
  Reads.cons_tag (enclosable_chars ht) (spells_chars ht) h

lemma reads_nil : Reads (String.ofList []) [] := ⟨[], .text (by simp [openingBraces]), .nil⟩

/-- A text is read as nodes that render to the text. -/
lemma exists_nodes_ofText (cs : List Char) :
    ∃ nodes, Derives (Token.ofText cs) nodes ∧
      ∀ b frames, renderNodes b frames nodes = done cs := by
  by_cases hcs : cs = []
  · exact ⟨[], by simpa [Token.ofText, hcs] using Derives.nil, fun b frames => by
      rw [renderNodes, hcs]⟩
  · refine ⟨[.text (String.ofList cs)], by simpa [Token.ofText, hcs] using Derives.nil.text,
      fun b frames => ?_⟩
    simp only [renderNodes, renderNode, done_andThen, String.toList_ofList, List.append_nil]

/-! ## The two bodies -/

/-- A loop over a list that writes a separator behind every item but the last. -/
def loopBody (raw separator : String) : String :=
  "\x7b\x7b#each " ++ raw ++ "\x7d\x7d" ++ "\x7b\x7bthis\x7d\x7d" ++ "\x7b\x7b#if @last\x7d\x7d" ++
    "\x7b\x7belse\x7d\x7d" ++ separator ++ "\x7b\x7b/if\x7d\x7d" ++ "\x7b\x7b/each\x7d\x7d"

/-- A reference to a list, joined with a separator. -/
def joinBody (raw separator : String) : String :=
  "\x7b\x7b" ++ raw ++ " | join(\"" ++ separator ++ "\")\x7d\x7d"

/-- The element of the present round. -/
def elementPath : Path := ⟨.this, []⟩

/-- Whether the present round is the last. -/
def lastPath : Path := ⟨.last, []⟩

/-- The tokens of the loop. -/
def loopTokens (p : Path) (separator : List Char) : List Token :=
  .tag (.opening .loop p) :: .tag (.expression ⟨elementPath, []⟩) ::
    .tag (.opening .cond lastPath) :: .tag .otherwise ::
      (Token.ofText separator ++ [.tag (.closing .cond), .tag (.closing .loop)])

/-- The nodes of a round, with those of the separator. -/
def roundNodes (separator : List Node) : List Node :=
  [.expr ⟨elementPath, []⟩, .block .cond lastPath [] separator]

lemma derives_loopTokens (p : Path) {separator : List Char} {nodes : List Node}
    (h : Derives (Token.ofText separator) nodes) :
    Derives (loopTokens p separator) [.block .loop p (roundNodes nodes) []] := by
  have hcond : Derives (.tag (.opening .cond lastPath) ::
      ([] ++ .tag .otherwise :: (Token.ofText separator ++ [.tag (.closing .cond)])))
      [.block .cond lastPath [] nodes] := .blockElse .nil h .nil
  have hround : Derives _ (roundNodes nodes) := .expression hcond
  have hloop : Derives (.tag (.opening .loop p) :: (_ ++ [.tag (.closing .loop)])) _ :=
    .block hround .nil
  simpa [loopTokens] using hloop

lemma printable_elementPath : elementPath.Printable :=
  ⟨⟨"this", Path.parse_eq_ok_iff.mpr (by decide +kernel)⟩, nofun⟩

lemma printable_lastPath : lastPath.Printable :=
  ⟨⟨"@last", Path.parse_eq_ok_iff.mpr (by decide +kernel)⟩, nofun⟩

section

variable {raw separator : String} {p : Path} (hparse : Path.parse raw = .ok p)

include hparse

lemma trim_ne_nil_of_parse : Text.trim raw.toList ≠ [] := by
  intro hnil
  rw [Path.parse_eq_ok_iff, ← String.ofList_toList (s := raw), ← Path.parse?_trim, hnil,
    Path.parse?_empty] at hparse
  cases hparse

/-- White space around a path does not matter. -/
lemma parse_of_trim_eq {cs : List Char} (h : Text.trim cs = Text.trim raw.toList) :
    Path.parse (String.ofList cs) = .ok p := by
  rw [Path.parse_eq_ok_iff, ← Path.parse?_trim, h, Path.parse?_trim, String.ofList_toList]
  exact Path.parse_eq_ok_iff.mp hparse

/-- The opening of the loop. -/
lemma spells_each : Tag.Spells (Text.trim ("#each ".toList ++ raw.toList)) (.opening .loop p) := by
  obtain ⟨before, after, hraw, hbefore, hafter⟩ := Text.exists_trim raw.toList
  have htrimmed : Text.Trimmed
      (['#'] ++ (BlockKind.loop.keyword.toList ++ ' ' :: before) ++ Text.trim raw.toList) :=
    Text.Trimmed.append (Text.trimmed_of_all (by decide)) (by simp) (Text.trimmed_trim _)
      (trim_ne_nil_of_parse hparse) _
  have hshape : "#each ".toList ++ raw.toList =
      ['#'] ++ (BlockKind.loop.keyword.toList ++ ' ' :: before) ++ Text.trim raw.toList ++
        after := by
    conv_lhs => rw [hraw]
    simp [BlockKind.keyword]
  have hargument : Path.parse (String.ofList (before ++ Text.trim raw.toList)) = .ok p :=
    parse_of_trim_eq hparse (by rw [Text.trim_append_left hbefore, Text.trim_trim])
  have hspells : Tag.Spells
      ('#' :: (BlockKind.loop.keyword.toList ++ ' ' :: (before ++ Text.trim raw.toList))) _ :=
    .opening (by decide) hargument
  rw [hshape, Text.trim_append_right htrimmed (by simp) hafter]
  simpa using hspells

lemma enclosable_of_parse : Enclosable raw.toList :=
  enclosable_of_not_mem (Path.not_mem_of_parse hparse (by decide))

/-- A path, a bar and what can stand between braces can stand between braces. -/
lemma enclosable_bar {cs : List Char} (h : Enclosable cs) :
    Enclosable (raw.toList ++ ' ' :: '|' :: ' ' :: cs) := by
  have hbar : Enclosable [' ', '|', ' '] := enclosable_of_not_mem (by decide)
  exact (enclosable_of_parse hparse).append (hbar.append h)

/-- A path has no bar that could be taken for one outside. -/
lemma isSealed_of_parse : Sealed '|' raw.toList := by
  refine sealed_of_forall fun c hc => ?_
  have hmark (m : Char) (hm : m ∈ Path.outerMarks) : c ≠ m := by
    rintro rfl
    exact Path.not_mem_of_parse hparse hm hc
  simp [isQuote, hmark '"' (by decide), hmark '\'' (by decide), hmark '|' (by decide)]

/-- In front of a bar stands the path, and nothing that could be taken for another bar. -/
lemma exists_path_bar {tail : List Char} (htail : Text.Trimmed tail) (hne : tail ≠ []) :
    ∃ front, Text.trim (raw.toList ++ ' ' :: '|' :: ' ' :: tail) = front ++ '|' :: ' ' :: tail ∧
      Path.parse (String.ofList front) = .ok p ∧ Sealed '|' front := by
  obtain ⟨before, after, hraw, hbefore, hafter⟩ := Text.exists_trim raw.toList
  have hne' := trim_ne_nil_of_parse hparse
  have htrimmed := Text.Trimmed.append (Text.trimmed_trim raw.toList) hne' htail hne
    (after ++ [' ', '|', ' '])
  have hshape : raw.toList ++ ' ' :: '|' :: ' ' :: tail =
      before ++ (Text.trim raw.toList ++ (after ++ [' ', '|', ' ']) ++ tail) := by
    conv_lhs => rw [hraw]
    simp
  have hpath : Path.parse (String.ofList (Text.trim raw.toList ++ (after ++ [' ']))) = .ok p := by
    refine parse_of_trim_eq hparse (Text.trim_append_right (Text.trimmed_trim _) hne' ?_)
    exact List.forall_mem_append.mpr ⟨hafter, isBlank_of_mem_blank⟩
  refine ⟨Text.trim raw.toList ++ (after ++ [' ']), ?_, hpath, ?_⟩
  · rw [hshape, Text.trim_append_left hbefore, Text.trim_of_trimmed htrimmed]
    simp
  · simpa using isSealed_of_parse hpath

/-- A reference with one filter. -/
lemma spells_reference_filter {call : FilterCall} {cs : List Char} (htrimmed : Text.Trimmed cs)
    (hne : cs ≠ []) (hsealed : Sealed '|' cs)
    (hread : ∀ expression, readFilter expression (' ' :: cs) = .ok call) :
    Tag.Spells (Text.trim (raw.toList ++ ' ' :: '|' :: ' ' :: cs)) (.expression ⟨p, [call]⟩) := by
  obtain ⟨front, htrim, hpath, hfront⟩ := exists_path_bar hparse htrimmed hne
  have hblank : Sealed '|' (' ' :: cs) := (show Sealed '|' [' '] from rfl).append hsealed
  have hsplit : splitOutsideQuotes '|' (front ++ '|' :: ' ' :: cs) = [front, ' ' :: cs] := by
    rw [splitOutsideQuotes_append_cons hfront (by decide), splitOutsideQuotes_of_sealed hblank]
  rw [htrim]
  refine .expression (fun heq => ?_) ?_
  · have hbar : '|' ∈ elseKeyword := heq ▸ by simp
    exact absurd hbar (by decide)
  · simp only [readExpression, hsplit, hpath, readFilters, hread]

/-- A reference with one filter, whose parentheses may be left out if it has no arguments. -/
lemma spells_filtered (bare : Bool) {call : FilterCall} (hcall : call.Printable) :
    Tag.Spells (Text.trim (raw.toList ++ ' ' :: '|' :: ' ' :: call.chars bare))
      (.expression ⟨p, [call]⟩) := by
  obtain ⟨htrimmed, hne⟩ : Text.Trimmed (call.chars bare) ∧ call.chars bare ≠ [] :=
    call.trimmed_chars
  have htrim : Text.trim ([' '] ++ call.chars bare) = call.chars bare := by
    rw [Text.trim_append_left isBlank_of_mem_blank, Text.trim_of_trimmed htrimmed]
  exact spells_reference_filter hparse htrimmed hne hcall.part_chars.isSealed fun expression =>
    hcall.readFilter_chars expression htrim

/-! ## Reading the two bodies -/

lemma reads_loopBody (hopening : '\x7b' ∉ separator.toList) :
    Reads (loopBody raw separator) (loopTokens p separator.toList) := by
  have hseparator : ¬ openingBraces <:+: separator.toList ++ ['\x7b'] :=
    not_pair_concat_of_not_mem hopening
  have heach : Enclosable ("#each ".toList ++ raw.toList) :=
    (enclosable_of_not_mem (by decide)).append (enclosable_of_parse hparse)
  have hthis : (Token.tag (.expression ⟨elementPath, []⟩)).Printable :=
    ⟨printable_elementPath, nofun, fun _ => by decide⟩
  have hlast : (Token.tag (.opening .cond lastPath)).Printable := printable_lastPath
  have hcond : Enclosable ((Tag.closing .cond).chars false) := enclosable_chars trivial
  have hcond' : Tag.Spells (Text.trim ((Tag.closing .cond).chars false)) (.closing .cond) :=
    spells_chars trivial
  have hloop : (Token.tag (.closing .loop)).Printable := trivial
  have helse : Tag.Spells (Text.trim elseKeyword) .otherwise := .otherwise
  -- the tags from the last to the first
  have hreads : Reads _ (loopTokens p separator.toList) :=
    Reads.cons_tag heach (spells_each hparse) <| Reads.cons_printed hthis <|
      Reads.cons_printed hlast <| Reads.cons_tag (enclosable_of_not_mem (by decide)) helse <|
        Reads.text_tag hseparator hcond hcond' <| Reads.cons_printed hloop reads_nil
  convert hreads using 1
  delta loopBody
  rw [← String.toList_inj, String.toList_ofList]
  simp [openingBraces, closingBraces, Tag.chars, Expression.chars, elementPath, lastPath,
    Path.display, BlockKind.keyword, elseKeyword]

/-- **The loop can be read**, with the separator as the second part of its condition. -/
lemma parse_loopBody (hopening : '\x7b' ∉ separator.toList) :
    ∃ nodes, parse (loopBody raw separator) = .ok [.block .loop p (roundNodes nodes) []] ∧
      ∀ b frames, renderNodes b frames nodes = done separator.toList := by
  obtain ⟨nodes, hnodes, hrender⟩ := exists_nodes_ofText separator.toList
  have hreads := reads_loopBody hparse hopening
  exact ⟨nodes, parse_eq_ok_iff_derives.mpr ⟨_, hreads, derives_loopTokens p hnodes⟩, hrender⟩

/-- **The reference can be read**, with the separator as the argument of its filter. -/
lemma parse_joinBody (hquote : '"' ∉ separator.toList) (hclosing : '\x7d' ∉ separator.toList) :
    parse (joinBody raw separator) = .ok [.expr ⟨p, [⟨.join, [.text separator]⟩]⟩] := by
  have hcall : FilterCall.Printable ⟨.join, [.text separator]⟩ := by
    refine ⟨rfl, List.forall_mem_singleton.mpr ⟨hquote, fun hpair => hclosing ?_⟩⟩
    exact hpair.subset (by simp [closingBraces])
  have hpart : Part (FilterCall.chars false ⟨.join, [.text separator]⟩) := hcall.part_chars
  have hinner := enclosable_bar hparse hpart.enclosable
  have hreads := Reads.cons_tag hinner (spells_filtered hparse false hcall) reads_nil
  have hbody : joinBody raw separator = String.ofList (openingBraces ++ (raw.toList ++
      ' ' :: '|' :: ' ' :: FilterCall.chars false ⟨.join, [.text separator]⟩) ++
        closingBraces ++ []) := by
    rw [← String.toList_inj, String.toList_ofList]
    simp [joinBody, openingBraces, closingBraces, FilterCall.chars, Filter.name, argumentChars]
  exact parse_eq_ok_iff_derives.mpr ⟨_, hbody ▸ hreads, .expression .nil⟩

end

/-! ## Rendering the two bodies -/

/-- **Rounds that write a separator behind every item but the last** write the items with the
separator between them. -/
lemma renderRounds_separated {round : Frame → Rendering (List Char)} {separator : List Char}
    (h : ∀ frame : Frame, round frame = done (frame.item.display.toList ++
      if frame.index + 1 = frame.length then [] else separator))
    (index : Nat) (items : List Value) :
    renderRounds round (index + items.length) index items =
      done (separator.intercalate (items.map fun v => v.display.toList)) := by
  induction items generalizing index with
  | nil => rfl
  | cons item rest ih =>
      have hlength : index + (item :: rest).length = index + 1 + rest.length := by
        simp only [List.length_cons]
        omega
      rw [renderRounds, h, hlength, ih, done_andThen, done_andThen]
      cases rest with
      | nil => simp
      | cons next rest => simp [List.intercalate_cons_cons]

lemma toList_intercalate_display (separator : String) (items : List Value) :
    (separator.intercalate (items.map Value.display)).toList =
      separator.toList.intercalate (items.map fun v => v.display.toList) := by
  rw [String.toList_intercalate, List.map_map]
  rfl

section

variable (b : Bindings) {separator : String} {nodes : List Node}

/-- A round of the loop shows its item, and the separator behind it unless it is the last. -/
lemma renderNodes_round
    (hnodes : ∀ b frames, renderNodes b frames nodes = done separator.toList) (frame : Frame)
    (frames : List Frame) :
    renderNodes b (frame :: frames) (roundNodes nodes) =
      done (frame.item.display.toList ++
        if frame.index + 1 = frame.length then [] else separator.toList) := by
  have hitem : renderNode b (frame :: frames) (.expr ⟨elementPath, []⟩) =
      done frame.item.display.toList := rfl
  have hcond : renderNode b (frame :: frames) (.block .cond lastPath [] nodes) =
      done (if frame.index + 1 = frame.length then [] else separator.toList) := by
    have hlast : resolve b (frame :: frames) lastPath =
        some (.bool (frame.index + 1 == frame.length)) := rfl
    rw [renderNode, hlast, hnodes, renderNodes]
    by_cases h : frame.index + 1 = frame.length <;> simp [Value.isTruthy, h]
  simp only [roundNodes, renderNodes, hitem, hcond, done_andThen, List.append_nil]

variable {b} {p : Path} {items : List Value} (hitems : resolve b [] p = some (.list items))

include hitems

/-- The loop renders to its items with the separator between them. -/
lemma renderNodes_loop
    (hnodes : ∀ b frames, renderNodes b frames nodes = done separator.toList) :
    renderNodes b [] [.block .loop p (roundNodes nodes) []] =
      done (separator.intercalate (items.map Value.display)).toList := by
  have hloop : loopItems b [] p = done items := by rw [loopItems, hitems]
  have hrounds := renderRounds_separated (fun frame => renderNodes_round b hnodes frame []) 0 items
  rw [Nat.zero_add, ← toList_intercalate_display] at hrounds
  simp only [renderNodes, renderNode, hloop, done_andThen, List.append_nil, andThen_done]
  cases items with
  | nil => rfl
  | cons item rest => exact hrounds

/-- The filter renders to the items of the list with the separator between them. -/
lemma renderNodes_join (separator : String) :
    renderNodes b [] [.expr ⟨p, [⟨.join, [.text separator]⟩]⟩] =
      done (separator.intercalate (items.map Value.display)).toList := by
  have hjoin : applyFilters p.display [⟨.join, [.text separator]⟩] (.list items) =
      .ok (.text (separator.intercalate (items.map Value.display))) := rfl
  simp only [renderNodes, renderNode, renderExpression, hitems, filtered, hjoin, Except.map,
    Value.display, done_andThen, List.append_nil]
  exact andThen_done _

/-- **A separator written with a loop is the separator of `join`.**  Wherever a path leads to a
list, whatever its items are, and for every separator without double quotes and braces, the loop
that writes the separator behind every item but the last renders to the same text as the filter,
without warnings.  The text is made of the displayed items with the separator between them. -/
theorem renderBody_loop_eq_join {raw : String} (hparse : Path.parse raw = .ok p)
    (hquote : '"' ∉ separator.toList) (hopening : '\x7b' ∉ separator.toList)
    (hclosing : '\x7d' ∉ separator.toList) (ws : List String) :
    renderBody b (loopBody raw separator) ws = renderBody b (joinBody raw separator) ws ∧
      renderBody b (joinBody raw separator) ws =
        ⟨.ok (separator.intercalate (items.map Value.display)), ws⟩ := by
  obtain ⟨nodes, hloop, hnodes⟩ := parse_loopBody hparse hopening
  have hjoin := parse_joinBody hparse hquote hclosing
  rw [renderBody_of_parse b hloop, renderNodes_loop hitems hnodes, renderBody_of_parse b hjoin,
    renderNodes_join hitems, done_andThen, String.ofList_toList]
  exact ⟨rfl, rfl⟩

end

/-- Items of all kinds, and a separator with the marks of filters and arguments in it. -/
theorem renderBody_loop_eq_join_mixed :
    let items : List Value :=
      [.null, .list [.number (.whole 1), .list []], .text "\x7b\x7b", .map [("k", .bool true)],
        .text ""]
    let b := Bindings.bind (.map [("rows", .list [.list items])]) [] .strict
    let raw := " rows[+0] "
    let p : Path := ⟨.root, [.key "rows", .index 0]⟩
    let separator := " | it's, (1)\n"
    resolve b [] p = some (.list items) ∧ Path.parse raw = .ok p ∧
      '"' ∉ separator.toList ∧ '\x7b' ∉ separator.toList ∧ '\x7d' ∉ separator.toList ∧
      renderBody b (loopBody raw separator) [] = renderBody b (joinBody raw separator) [] ∧
      renderBody b (joinBody raw separator) [] =
        ⟨.ok (separator.intercalate (items.map Value.display)), []⟩ := by
  intro items b raw p separator
  have hitems : resolve b [] p = some (.list items) := rfl
  have hparse : Path.parse raw = .ok p := Path.parse_eq_ok_iff.mpr (by decide +kernel)
  have hquote : '"' ∉ separator.toList := by decide
  have hopening : '\x7b' ∉ separator.toList := by decide
  have hclosing : '\x7d' ∉ separator.toList := by decide
  exact ⟨hitems, hparse, hquote, hopening, hclosing,
    renderBody_loop_eq_join hitems hparse hquote hopening hclosing []⟩

end Docket.Template
