import Docket.Proofs.Bindings.Defaults
import Docket.Proofs.Rendering.Strictness

/-!
# A schema only fills gaps

Defaults are trees, and they go into the same index as the values of the context.  Their places may
lie above or below the places of these values, or of other defaults; but whatever is found before a
default is laid down is still found afterwards, so a schema never changes what the context holds.

`origin_of_gap` says where a value comes from that only the schema gives: it stands at or below the
place of a declared variable whose own path had nothing when its turn came.  The places below a
place are those that going down through members leads to (`placeBelow`), also at the root, where the
first step is written without a mark.

A variable with a default has a value unless its path is empty (`exists_get?_of_default`), so it is
never missing.  Under strictness, no variable that is required is missing once binding has been
checked (`isSome_lookup?_of_required`).  `bind_fills_gaps` puts all this together.
-/

namespace Docket

open Docket.Path

namespace Bindings

/-! ## Places below a place -/

/-- The place that steps lead to from a place. -/
def placeBelow (place : List Char) (steps : List Segment) : List Char :=
  steps.foldl memberPlace place

/-- An entry of the index belongs to a descent from the place, wherever the place is. -/
lemma exists_placeBelow_of_mem_flatten {v w : Value} {place : List Char} {key : String}
    (h : (key, w) ∈ flatten place v) :
    ∃ steps, v.Reaches steps w ∧ key.toList = placeBelow place steps := by
  induction v using Value.induction_members generalizing place with
  | h v ih =>
      rw [flatten_eq, List.mem_append, List.mem_flatMap] at h
      rcases h with ⟨m, hm, h⟩ | h
      · obtain ⟨steps, hreaches, hkey⟩ := ih m hm h
        exact ⟨m.1 :: steps, .down hm hreaches, hkey⟩
      · split at h
        · cases h
        · obtain ⟨rfl, rfl⟩ := Prod.mk.inj (List.mem_singleton.mp h)
          exact ⟨[], .here w, String.toList_ofList⟩

/-! ## Gaps and what fills them -/

section

variable (context : Value) (strictness : Strictness)

/-- What the context holds is found, whatever the schema declares. -/
lemma get?_bind_of_context {key : String} {w : Value}
    (h : (bind context [] strictness).get? key = some w) (schema : Schema) :
    (bind context schema strictness).get? key = some w :=
  get?_bind_append context strictness h schema

/-- **Where a value comes from that the context does not hold.**  It stands at or below the path of
a declared variable, in its default, and this path had no value when the default was laid down. -/
lemma origin_of_gap {schema : Schema} {key : String} {w : Value}
    (hcontext : (bind context [] strictness).get? key = none)
    (h : (bind context schema strictness).get? key = some w) :
    ∃ before d after v steps, schema = before ++ d :: after ∧ d.2.default = some v ∧
      (bind context before strictness).get? (canonicalName d.1) = none ∧ v.Reaches steps w ∧
      key.toList = placeBelow (canonicalName d.1).toList steps := by
  induction schema using List.reverseRecOn with
  | nil =>
      rw [hcontext] at h
      cases h
  | append_singleton front d ih =>
      rw [get?_bind_concat, Option.or_eq_some_iff] at h
      rcases h with h | ⟨-, h⟩
      · -- the value was there before the last variable
        obtain ⟨before, d', after, v, steps, rfl, hd'⟩ := ih h
        exact ⟨before, d', after ++ [d], v, steps, by simp, hd'⟩
      · split at h
        · cases h
        · rename_i hfree
          obtain ⟨v, hdefault, hlookup⟩ := Option.bind_eq_some_iff.mp h
          obtain ⟨steps, hreaches, hkey⟩ :=
            exists_placeBelow_of_mem_flatten (Value.mem_of_lookup_eq_some hlookup)
          exact ⟨front, d, [], v, steps, rfl, hdefault, by simpa using hfree, hreaches, hkey⟩

/-- A variable with a default has a value, unless its path is empty. -/
lemma exists_get?_of_default {schema : Schema} {d : String × Declaration} (hd : d ∈ schema)
    {v : Value} (hdefault : d.2.default = some v) (hname : canonicalName d.1 ≠ "") :
    ∃ w, (bind context schema strictness).get? (canonicalName d.1) = some w := by
  obtain ⟨before, after, rfl⟩ := List.append_of_mem hd
  have hplace : (canonicalName d.1).toList ≠ [] := by simpa using hname
  exact ⟨_, get?_bind_own context strictness hdefault hplace before after⟩

/-! ## Required variables -/

/-- A required variable is missing exactly if nothing is found for its path. -/
lemma mem_missingRequired_bind {schema : Schema} {name : String} :
    name ∈ (bind context schema strictness).missingRequired ↔
      (∃ d ∈ schema, d.2.isRequired ∧ canonicalName d.1 = name) ∧
        (bind context schema strictness).get? name = none := by
  have hdeclared : (bind context schema strictness).declared =
      schema.map fun d => (canonicalName d.1, d.2.isRequired) := rfl
  simp only [missingRequired, hdeclared, List.mem_map, List.mem_filter, Bool.and_eq_true,
    Option.isNone_iff_eq_none]
  constructor
  · rintro ⟨_, ⟨⟨d, hd, rfl⟩, hrequired, hnone⟩, rfl⟩
    exact ⟨⟨d, hd, hrequired, rfl⟩, hnone⟩
  · rintro ⟨⟨d, hd, hrequired, rfl⟩, hnone⟩
    exact ⟨_, ⟨⟨d, hd, rfl⟩, hrequired, hnone⟩, rfl⟩

/-- Only missing variables are reported, as an error or in warnings. -/
lemma mem_missingRequired_of_reported {b : Bindings} {name : String}
    (h : b.requiredWarnings = .error (.unresolved name) ∨
      ∃ ws, b.requiredWarnings = .ok ws ∧ ∃ w ∈ ws, Template.Names w name) :
    name ∈ b.missingRequired := by
  rw [requiredWarnings] at h
  split at h
  · rename_i hmissing
    rcases h with h | ⟨ws, h, -⟩
    · cases h
      rw [hmissing]
      exact List.mem_cons_self
    · cases h
  · rcases h with h | ⟨ws, h, w, hw, -⟩
    · cases h
    · cases h
      cases hw
  · rcases h with h | ⟨ws, h, w, hw, hname⟩
    · cases h
    · cases h
      obtain ⟨missing, hmissing, rfl⟩ := List.mem_map.mp hw
      rwa [Template.Names.unique (.inr rfl) hname]

/-- Under strictness a schema passes the check only if nothing is missing. -/
lemma missingRequired_eq_nil_of_strict {b : Bindings} (hstrict : b.strictness = .strict)
    {ws : List String} (h : b.requiredWarnings = .ok ws) : b.missingRequired = [] := by
  rw [requiredWarnings, hstrict] at h
  cases hmissing : b.missingRequired with
  | nil => rfl
  | cons name rest =>
      rw [hmissing] at h
      cases h

/-- Once the check has passed under strictness, every required variable is looked up with success,
seen from the root. -/
lemma isSome_lookup?_of_required {schema : Schema} {ws : List String}
    (h : (bind context schema .strict).requiredWarnings = .ok ws) {d : String × Declaration}
    (hd : d ∈ schema) (hrequired : d.2.isRequired) {p : Path} (hparse : Path.parse d.1 = .ok p) :
    ((bind context schema .strict).lookup? p).isSome := by
  have hname : canonicalName d.1 = p.canonical := by
    rw [canonicalName, Path.parse_eq_ok_iff.mp hparse]
  have hmissing : p.canonical ∉ (bind context schema .strict).missingRequired := by
    rw [missingRequired_eq_nil_of_strict rfl h]
    exact List.not_mem_nil
  rw [lookup?, Option.isSome_iff_ne_none]
  exact fun hnone =>
    hmissing ((mem_missingRequired_bind context .strict).mpr ⟨⟨d, hd, hrequired, hname⟩, hnone⟩)

end

/-- **A schema only fills gaps.**  Every key that the context binds keeps its value, whatever
defaults are declared and in whatever order.  A key that only the schema binds stands at or below
the path of a variable that has a default, and nothing was bound to this path, neither by the
context nor by the variables before it.  A variable with a default is bound and never reported as
missing, if its canonical path is not empty.  And if the check for required variables passes under
strictness, then looking up a required variable finds a value, if its name is a path that is seen
from the root. -/
theorem bind_fills_gaps (context : Value) (schema : Schema) (strictness : Strictness) :
    let b := bind context schema strictness
    (∀ key v, (bind context [] strictness).get? key = some v → b.get? key = some v) ∧
    (∀ key w, (bind context [] strictness).get? key = none → b.get? key = some w →
      ∃ before d after v steps, schema = before ++ d :: after ∧ d.2.default = some v ∧
        (bind context [] strictness).get? (canonicalName d.1) = none ∧
        (bind context before strictness).get? (canonicalName d.1) = none ∧
        v.Reaches steps w ∧ key.toList = placeBelow (canonicalName d.1).toList steps) ∧
    (∀ d ∈ schema, ∀ v, d.2.default = some v → canonicalName d.1 ≠ "" →
      (∃ w, b.get? (canonicalName d.1) = some w) ∧
        b.requiredWarnings ≠ .error (.unresolved (canonicalName d.1)) ∧
        ∀ ws, b.requiredWarnings = .ok ws → ∀ w ∈ ws, ¬ Template.Names w (canonicalName d.1)) ∧
    (strictness = .strict → ∀ ws, b.requiredWarnings = .ok ws → ∀ d ∈ schema, d.2.isRequired →
      ∀ p, Path.parse d.1 = .ok p → p.scope = .root → ∃ v, b.lookup? p = some v) := by
  intro b
  refine ⟨fun key v h => get?_bind_of_context context strictness h schema,
    fun key w hcontext h => ?_, fun d hd v hdefault hname => ?_,
    fun hstrict ws h d hd hrequired p hparse _ => ?_⟩
  · obtain ⟨before, d, after, v, steps, hsplit, hdefault, hfree, hbelow⟩ :=
      origin_of_gap context strictness hcontext h
    refine ⟨before, d, after, v, steps, hsplit, hdefault, ?_, hfree, hbelow⟩
    refine Option.eq_none_iff_forall_ne_some.mpr fun w' hw' => ?_
    rw [get?_bind_of_context context strictness hw' before] at hfree
    cases hfree
  · obtain ⟨w, hfound⟩ := exists_get?_of_default context strictness hd hdefault hname
    have hthere : canonicalName d.1 ∉ b.missingRequired := by
      intro hmissing
      rw [((mem_missingRequired_bind context strictness).mp hmissing).2] at hfound
      cases hfound
    refine ⟨⟨w, hfound⟩, fun h => hthere (mem_missingRequired_of_reported (.inl h)), ?_⟩
    exact fun ws h w hw hnames =>
      hthere (mem_missingRequired_of_reported (.inr ⟨ws, h, w, hw, hnames⟩))
  · subst hstrict
    exact Option.isSome_iff_exists.mp (isSome_lookup?_of_required context h hd hrequired hparse)

/-- A variable named `this` has the empty path: its default is laid down over the root, where
nothing is bound to the path itself. -/
example :
    let b := bind (.map [("a", .text "here")])
      [("this", { default := some (.map [("a", .text "x"), ("b", .text "y")]) })] .strict
    canonicalName "this" = "" ∧ b.get? "" = none ∧ b.get? "a" = some (.text "here") ∧
      b.get? "b" = some (.text "y") := by
  exact ⟨by decide +kernel, rfl, rfl, rfl⟩

end Bindings

end Docket
