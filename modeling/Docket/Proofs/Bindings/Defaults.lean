import Docket.Proofs.Bindings.Lookup
import Docket.Proofs.Inheritance.Flattening

/-!
# Defaults

Binding goes through the declared variables in order.  Where the path of one has no value yet, its
default is laid down there, together with all that the default holds (`get?_bind_concat`).  What has
been found stays (`get?_bind_append`), so it is the first to hold a value for a path that counts: the
context, or else the default of some variable (`get?_bind_eq_none`, `get?_bind_own`).

Merging keeps the defaults that a definition gives itself (`Definition.default_of_merge`), so these
are found wherever the context has nothing, unless the default of a variable declared before holds a
value for the same path (`lookup?_ownDefault`).  This happens because merging tells variables by name
and binding by path, so that a fragment can have the same path under another name
(`lookup?_ownDefault_respelled`), and because the default of a variable further up can be a map with
an entry for the path (`lookup?_ownDefault_enclosed`).
-/

namespace Docket

open Docket.Path

/-! ## One variable after another -/

namespace Bindings

/-- What the default of a declared variable holds for an index key. -/
def defaultAt? (key : String) (d : String × Declaration) : Option Value :=
  d.2.default.bind fun v => Value.lookup key (flatten (canonicalName d.1).toList v)

lemma lookup_addDefault (index : List (String × Value)) (d : String × Declaration) (key : String) :
    Value.lookup key (addDefault index d.1 d.2) =
      (Value.lookup key index).or
        (if (Value.lookup (canonicalName d.1) index).isSome then none else defaultAt? key d) := by
  rw [addDefault, defaultAt?]
  cases d.2.default with
  | none => simp
  | some v =>
      by_cases hfound : (Value.lookup (canonicalName d.1) index).isSome <;>
        simp [hfound, Value.lookup_append]

section

variable (context : Value) (strictness : Strictness)

/-- One more variable adds what its default holds, unless its own path has a value. -/
lemma get?_bind_concat (schema : Schema) (d : String × Declaration) (key : String) :
    (bind context (schema ++ [d]) strictness).get? key =
      ((bind context schema strictness).get? key).or
        (if ((bind context schema strictness).get? (canonicalName d.1)).isSome then none
          else defaultAt? key d) := by
  have hindex : (bind context (schema ++ [d]) strictness).index =
      addDefault (bind context schema strictness).index d.1 d.2 := List.foldl_concat ..
  rw [get?, hindex, lookup_addDefault]
  rfl

/-- What has been found stays. -/
lemma get?_bind_append {schema : Schema} {key : String} {w : Value}
    (h : (bind context schema strictness).get? key = some w) (more : Schema) :
    (bind context (schema ++ more) strictness).get? key = some w := by
  induction more using List.reverseRecOn with
  | nil => rwa [List.append_nil]
  | append_singleton more d ih =>
      rw [← List.append_assoc, get?_bind_concat, ih]
      rfl

/-- Nothing is found if the context has nothing, and no default that is laid down. -/
lemma get?_bind_eq_none {schema : Schema} {key : String}
    (hcontext : (bind context [] strictness).get? key = none)
    (hdefaults : ∀ d ∈ schema, (bind context [] strictness).get? (canonicalName d.1) = none →
      defaultAt? key d = none) : (bind context schema strictness).get? key = none := by
  induction schema using List.reverseRecOn with
  | nil => exact hcontext
  | append_singleton before d ih =>
      rw [get?_bind_concat, ih fun e he => hdefaults e (List.mem_append_left _ he), Option.none_or]
      split
      · rfl
      · rename_i hfree
        refine hdefaults d List.mem_concat_self (Option.eq_none_iff_forall_ne_some.mpr fun w hw => ?_)
        have hfound : (bind context before strictness).get? (canonicalName d.1) = some w :=
          get?_bind_append context strictness hw before
        exact hfree (by rw [hfound]; rfl)

/-- A variable with a default has a value: the one that is there before it, or else its default. -/
lemma get?_bind_own {name : String} {declaration : Declaration} {v : Value}
    (hdefault : declaration.default = some v) (hname : (canonicalName name).toList ≠ [])
    (before after : Schema) :
    (bind context (before ++ (name, declaration) :: after) strictness).get? (canonicalName name) =
      some (((bind context before strictness).get? (canonicalName name)).getD v) := by
  have hown : defaultAt? (canonicalName name) (name, declaration) = some v := by
    have hself := lookup_flatten_self hname v
    rw [String.ofList_toList] at hself
    simp only [defaultAt?, hdefault, Option.bind_some, hself]
  rw [← List.singleton_append, ← List.append_assoc]
  refine get?_bind_append context strictness ?_ after
  rw [get?_bind_concat, hown]
  cases (bind context before strictness).get? (canonicalName name) <;> rfl

end

end Bindings

/-! ## Defaults of a definition -/

/-- A schema that has each name once is cut in two at a variable. -/
lemma Schema.exists_split {schema : Schema} (hnodup : (schema.map (·.1)).Nodup) {name : String}
    {declaration : Declaration} (hmem : (name, declaration) ∈ schema) :
    ∃ before after, schema = before ++ (name, declaration) :: after ∧
      (∀ w ∈ before, w.1 ≠ name) ∧ ∀ w ∈ after, w.1 ≠ name := by
  obtain ⟨before, after, rfl⟩ := List.append_of_mem hmem
  rw [List.map_append, List.map_cons, List.nodup_append, List.nodup_cons] at hnodup
  obtain ⟨-, ⟨hafter, -⟩, hbefore⟩ := hnodup
  refine ⟨before, after, rfl, fun w hw => ?_, fun w hw heq => ?_⟩
  · exact hbefore w.1 (List.mem_map_of_mem hw) name List.mem_cons_self
  · exact hafter (List.mem_map.mpr ⟨w, hw, heq⟩)

/-- The part before a variable is what comes before its name. -/
lemma Schema.takeWhile_split {name : String} {before : Schema} (h : ∀ w ∈ before, w.1 ≠ name)
    (declaration : Declaration) (after : Schema) :
    (before ++ (name, declaration) :: after).takeWhile (fun w => w.1 ≠ name) = before := by
  have hbefore : ∀ w ∈ before, decide (w.1 ≠ name) := fun w hw => decide_eq_true (h w hw)
  rw [List.takeWhile_append_of_pos hbefore, List.takeWhile_cons_of_neg (by simp), List.append_nil]

/-- The default that a definition gives itself to the variable of a name. -/
def Definition.ownDefault? (d : Definition) (name : String) : Option Value :=
  lastSet (fun w => w.2.default) (Layer.declarationsOf name [d])

/-- With each name once, this is the default of the declaration with the name. -/
lemma Definition.ownDefault?_of_mem {d : Definition} (hnodup : (d.schema.map (·.1)).Nodup)
    {name : String} {declaration : Declaration} (hmem : (name, declaration) ∈ d.schema) :
    d.ownDefault? name = declaration.default := by
  obtain ⟨before, after, hsplit, hbefore, hafter⟩ := Schema.exists_split hnodup hmem
  have hall : d.schema.filter (fun w => w.1 = name) = [(name, declaration)] := by
    have hfront : before.filter (fun w => w.1 = name) = [] :=
      List.filter_eq_nil_iff.mpr fun w hw => by simpa using hbefore w hw
    have hback : after.filter (fun w => w.1 = name) = [] :=
      List.filter_eq_nil_iff.mpr fun w hw => by simpa using hafter w hw
    simp [hsplit, hfront, hback]
  rw [Definition.ownDefault?, Layer.declarationsOf, List.flatMap_singleton, hall]
  cases hdefault : declaration.default <;> simp [lastSet, hdefault]

/-- Merging keeps the defaults that a definition gives itself. -/
lemma Definition.default_of_merge {fragments : Fragments} {d : Definition} {m : MergedTemplate}
    (hmerge : d.merge fragments = .ok m) {name : String} {v : Value}
    (hown : d.ownDefault? name = some v) :
    (m.schema.map (·.1)).Nodup ∧
      ∃ declaration, (name, declaration) ∈ m.schema ∧ declaration.default = some v := by
  obtain ⟨bases, -, -, -, hm⟩ := Definition.merge_ok hmerge
  have hschema : m.schema = (Layer.ofPile (bases ++ [d])).schema := by rw [hm]
  have hsplit : Layer.declarationsOf name (bases ++ [d]) =
      Layer.declarationsOf name bases ++ Layer.declarationsOf name [d] := by
    simp [Layer.declarationsOf]
  have hdeclared : name ∈ m.schema.map (·.1) := by
    obtain ⟨w, hw, -⟩ := List.mem_filterMap.mp (List.mem_of_getLast? hown)
    obtain ⟨hmem, hname⟩ := List.mem_filter.mp
      (hsplit ▸ List.mem_append_right _ hw : w ∈ Layer.declarationsOf name (bases ++ [d]))
    rw [hschema, Layer.map_fst_ofPile, List.mem_eraseDups]
    exact List.mem_map.mpr ⟨w, hmem, by simpa using hname⟩
  obtain ⟨⟨name', declaration⟩, hmem, hname⟩ := List.mem_map.mp hdeclared
  obtain rfl : name' = name := hname
  refine ⟨hschema ▸ (Layer.distinct_ofPile _).schema, declaration, hmem, ?_⟩
  rw [hschema] at hmem
  have hlast : declaration.default =
      lastSet (fun w => w.2.default) (Layer.declarationsOf name' (bases ++ [d])) :=
    Layer.declaration_ofPile (fun _ _ => rfl) hmem
  rw [hlast, hsplit, lastSet_append, ← Definition.ownDefault?, hown, Option.some_or]

namespace Bindings

/-- **A definition's own default counts where the context has no value**, unless one before it holds
a value for the same path.  What is found is what the variables declared before have laid down there,
and the default of the definition if they have laid down nothing, whatever fragments say.  So it is
this default if every variable before either has a value in the context for its own path, or has no
default that holds a value for the path in question. -/
theorem lookup?_ownDefault {fragments : Fragments} {d : Definition} {m : MergedTemplate}
    (hmerge : d.merge fragments = .ok m) {name : String} {v : Value}
    (hown : d.ownDefault? name = some v) {p : Path} (hparse : Path.parse name = .ok p)
    (hroot : p.scope = .root) {context : Value} (hcontext : context.settled = context)
    (hkeys : context.everyMap plainKeys) (hwalk : context.walk p.segments = none)
    (strictness : Strictness) :
    let before := m.schema.takeWhile fun w => w.1 ≠ name
    (bind context m.schema strictness).lookup? p =
        some (((bind context before strictness).lookup? p).getD v) ∧
      ((∀ w ∈ before, (bind context [] strictness).get? (canonicalName w.1) = none →
          defaultAt? p.canonical w = none) →
        (bind context m.schema strictness).lookup? p = some v) := by
  intro before
  obtain ⟨hne, hsteps⟩ := steps_of_parse hparse hroot
  obtain ⟨hnodup, declaration, hmem, hdefault⟩ := Definition.default_of_merge hmerge hown
  have hname : canonicalName name = p.canonical := by
    rw [canonicalName, Path.parse_eq_ok_iff.mp hparse]
  have hplace : (canonicalName name).toList ≠ [] := by
    obtain ⟨s, rest, heq⟩ := List.exists_cons_of_ne_nil hne
    have hlead : leadChars s ≠ [] := leadChars_ne_nil (hsteps s (heq ▸ List.mem_cons_self)).plain
    rw [hname, Path.canonical, String.toList_ofList, heq, canonicalChars_cons]
    exact List.append_ne_nil_of_left_ne_nil hlead _
  obtain ⟨front, after, hsplit, hfront, -⟩ := Schema.exists_split hnodup hmem
  have hbefore : before = front := by
    rw [show before = m.schema.takeWhile fun w => w.1 ≠ name from rfl, hsplit]
    exact Schema.takeWhile_split hfront declaration after
  have hfound : (bind context m.schema strictness).lookup? p =
      some (((bind context before strictness).lookup? p).getD v) := by
    rw [lookup?, lookup?, ← hname, hbefore, hsplit]
    exact get?_bind_own context strictness hdefault hplace front after
  refine ⟨hfound, fun hfree => ?_⟩
  have hnothing : (bind context [] strictness).get? p.canonical = none :=
    (lookup_flatten_eq_walk hcontext hkeys hne hsteps).trans hwalk
  rw [hfound, lookup?, get?_bind_eq_none context strictness hnothing hfree, Option.getD_none]

/-! ## A template over a page -/

/-- A page whose variables have these defaults. -/
def pageFragments (defaults : List (String × Value)) : Fragments :=
  [("page",
    { identity := .fragment "page", version := "1", description := none, sections := [],
      schema := defaults.map fun (name, v) => (name, { default := some v }), bases := [],
      source := "page.yaml" })]

/-- A template that is based on the page, with defaults of its own. -/
def pageTemplate (defaults : List (String × Value)) : Definition :=
  { identity := .template ⟨"jira", "bug", "rust"⟩, version := "1", description := none,
    sections := [], schema := defaults.map fun (name, v) => (name, { default := some v }),
    bases := ["page"], source := "bug.yaml" }

/-- What the template amounts to if its variables get these defaults. -/
def pageMerged (defaults : List (String × Value)) : MergedTemplate :=
  { id := "jira/bug/rust@1", key := some ⟨"jira", "bug", "rust"⟩, version := "1",
    description := none, sections := [],
    schema := defaults.map fun (name, v) => (name, { default := some v }), lineage := ["page"],
    source := "bug.yaml" }

/-- A page with defaults for a list and for its first item, and a template with another one for the
item. -/
lemma merge_item :
    (pageTemplate [("items.0", .text "own")]).merge
        (pageFragments [("items", .list [.text "x"]), ("items.0", .text "page")]) =
      .ok (pageMerged [("items", .list [.text "x"]), ("items.0", .text "own")]) := by cbv

/-- The context has something for the list, so that the default of the list does not count, but no
first item. -/
theorem lookup?_ownDefault_item :
    let d := pageTemplate [("items.0", .text "own")]
    let fragments := pageFragments [("items", .list [.text "x"]), ("items.0", .text "page")]
    let m := pageMerged [("items", .list [.text "x"]), ("items.0", .text "own")]
    let context := Value.map [("items", .map [("1", .text "second")])]
    let p : Path := ⟨.root, [.key "items", .index 0]⟩
    let before := m.schema.takeWhile fun w => w.1 ≠ "items.0"
    d.merge fragments = .ok m ∧
      d.ownDefault? "items.0" = some (.text "own") ∧
      Path.parse "items.0" = .ok p ∧
      context.settled = context ∧ context.everyMap plainKeys ∧ context.walk p.segments = none ∧
      (∀ w ∈ before, (bind context [] .strict).get? (canonicalName w.1) = none →
        defaultAt? p.canonical w = none) ∧
      (bind context m.schema .strict).lookup? p = some (.text "own") := by
  intro d fragments m context p before
  have hnames : (d.schema.map (·.1)).Nodup := List.nodup_singleton "items.0"
  have hmem : ("items.0", { default := some (.text "own") }) ∈ d.schema := List.mem_singleton_self _
  have hown : d.ownDefault? "items.0" = some (.text "own") :=
    Definition.ownDefault?_of_mem hnames hmem
  have hparse : Path.parse "items.0" = .ok p := Path.parse_eq_ok_iff.mpr (by decide +kernel)
  have hkeys : context.everyMap plainKeys := by decide +kernel
  have hbefore : ∀ w ∈ before, (bind context [] .strict).get? (canonicalName w.1) = none →
      defaultAt? p.canonical w = none := by
    intro w hw hfree
    obtain rfl : w = ("items", { default := some (.list [.text "x"]) }) := List.mem_singleton.mp hw
    cases hfree
  exact ⟨merge_item, hown, hparse, rfl, hkeys, rfl, hbefore,
    (lookup?_ownDefault merge_item hown hparse rfl rfl hkeys rfl .strict).2 hbefore⟩

lemma merge_respelled :
    (pageTemplate [("items[0]", .text "own")]).merge (pageFragments [("items.0", .text "page")]) =
      .ok (pageMerged [("items.0", .text "page"), ("items[0]", .text "own")]) := by cbv

/-- The default of a fragment counts, and not that of the template, if they name the same path in two
ways. -/
theorem lookup?_ownDefault_respelled :
    let d := pageTemplate [("items[0]", .text "own")]
    let m := pageMerged [("items.0", .text "page"), ("items[0]", .text "own")]
    let p : Path := ⟨.root, [.key "items", .index 0]⟩
    d.merge (pageFragments [("items.0", .text "page")]) = .ok m ∧
      d.ownDefault? "items[0]" = some (.text "own") ∧
      Path.parse "items[0]" = .ok p ∧ Path.parse "items.0" = .ok p ∧
      (Value.map []).settled = .map [] ∧ (Value.map []).everyMap plainKeys ∧
      (Value.map []).walk p.segments = none ∧
      (bind (.map []) m.schema .lenient).lookup? p = some (.text "page") :=
  ⟨merge_respelled, rfl, Path.parse_eq_ok_iff.mpr (by decide +kernel),
    Path.parse_eq_ok_iff.mpr (by decide +kernel), rfl, by decide +kernel, rfl, rfl⟩

lemma merge_enclosed :
    (pageTemplate [("owner", .map [("name", .text "ann")]), ("owner.name", .text "own")]).merge
        (pageFragments []) =
      .ok (pageMerged [("owner", .map [("name", .text "ann")]), ("owner.name", .text "own")]) := by
  cbv

/-- What the default of a map holds counts, and not the default of a variable in the map, if the map
is declared before. -/
theorem lookup?_ownDefault_enclosed :
    let d := pageTemplate [("owner", .map [("name", .text "ann")]), ("owner.name", .text "own")]
    let m := pageMerged [("owner", .map [("name", .text "ann")]), ("owner.name", .text "own")]
    let p : Path := ⟨.root, [.key "owner", .key "name"]⟩
    d.merge (pageFragments []) = .ok m ∧
      d.ownDefault? "owner.name" = some (.text "own") ∧
      Path.parse "owner.name" = .ok p ∧
      (Value.map []).settled = .map [] ∧ (Value.map []).everyMap plainKeys ∧
      (Value.map []).walk p.segments = none ∧
      (bind (.map []) m.schema .lenient).lookup? p = some (.text "ann") :=
  ⟨merge_enclosed, rfl, Path.parse_eq_ok_iff.mpr (by decide +kernel), rfl, by decide +kernel, rfl,
    rfl⟩

end Bindings

end Docket
