import Docket.Proofs.Bindings.Lookup
import Docket.Template.Render

/-!
# Names are seen from the inside out

Inside nested loops a path that starts with a name belongs to the innermost enclosing element that
is a map with this name (`InnermostOwner`); from there it is walked to its end, and nobody else is
asked if the walk leads nowhere.  If no enclosing element has the name, the path is looked up in the
bindings.  `resolve_name` says so for one name, `resolve_scoped` for every path that can be read.

A path that starts with a number is never looked for in the elements, although a map may have the
number as a key (`resolve_number`).
-/

namespace Docket.Template

/-! ## Owners -/

/-- A value is a map that has the first step of a path. -/
def Owns (v : Value) (p : Path) : Prop :=
  (∃ entries, v = .map entries) ∧ (v.walk (p.segments.take 1)).isSome

/-- An item is the innermost of the enclosing elements that own a path. -/
def InnermostOwner (frames : List Frame) (p : Path) (item : Value) : Prop :=
  ∃ inner frame outer, frames = inner ++ frame :: outer ∧ frame.item = item ∧ Owns item p ∧
    ∀ f ∈ inner, ¬ Owns f.item p

variable {frames : List Frame} {p : Path} {item : Value} {name : String} {rest : List Segment}

/-- Only maps have keys, so the owners of a path that starts with a name are the values that have
it. -/
lemma owns_name_iff (hp : p.segments = .key name :: rest) :
    Owns item p ↔ (item.get? name).isSome := by
  have hwalk : item.walk (p.segments.take 1) = item.get? name := by
    simp [hp, Value.walk, Value.step]
  rw [Owns, hwalk]
  refine ⟨And.right, fun h => ⟨?_, h⟩⟩
  cases item with
  | map entries => exact ⟨entries, rfl⟩
  | _ => simp [Value.get?] at h

/-- The owner that rendering takes is the innermost one. -/
lemma owner?_eq_some_iff (hp : p.segments = .key name :: rest) :
    owner? frames name = some item ↔ InnermostOwner frames p item := by
  simp only [owner?, Option.map_eq_some_iff, List.find?_eq_some_iff_append, InnermostOwner,
    owns_name_iff hp, Bool.not_eq_true', Bool.not_eq_true]
  constructor
  · rintro ⟨frame, ⟨howns, inner, outer, rfl, hinner⟩, rfl⟩
    exact ⟨inner, frame, outer, rfl, rfl, howns, hinner⟩
  · rintro ⟨inner, frame, outer, rfl, rfl, howns, hinner⟩
    exact ⟨frame, ⟨howns, inner, outer, rfl, hinner⟩, rfl⟩

lemma owner?_eq_none_iff (hp : p.segments = .key name :: rest) :
    owner? frames name = none ↔ ∀ f ∈ frames, ¬ Owns f.item p := by
  simp only [owner?, Option.map_eq_none_iff, List.find?_eq_none, owns_name_iff hp]

/-! ## Resolving -/

/-- A path that starts with a name is walked from its innermost owner, or else looked up. -/
lemma resolve_name (b : Bindings) (hroot : p.scope = .root) (hp : p.segments = .key name :: rest) :
    (∀ item, InnermostOwner frames p item → resolve b frames p = item.walk p.segments) ∧
      ((∀ f ∈ frames, ¬ Owns f.item p) → resolve b frames p = b.lookup? p) := by
  have hname : p.firstName? = some name := by simp only [Path.firstName?, hp]
  refine ⟨fun item hitem => ?_, fun hnone => ?_⟩
  · have howner := (owner?_eq_some_iff hp).mpr hitem
    simp only [resolve, hroot, hname, Option.bind_some, howner]
  · have howner := (owner?_eq_none_iff hp).mpr hnone
    simp only [resolve, hroot, hname, Option.bind_some, howner]

/-- A path that starts with a number passes all elements by. -/
lemma resolve_number (b : Bindings) (frames : List Frame) (hroot : p.scope = .root) {position : Nat}
    (hp : p.segments = .index position :: rest) : resolve b frames p = b.lookup? p := by
  simp only [resolve, hroot, Path.firstName?, hp, Option.bind_none]

/-- **Names are seen from the inside out.**  A path that is read and seen from the root starts with
a name or with a number.  With a name, it is walked from the innermost enclosing element that has
the name, even if the walk finds nothing, and looked up in the bindings if no element has it.  With
a number, it is looked up in the bindings, whatever the elements are. -/
theorem resolve_scoped (b : Bindings) (frames : List Frame) {raw : String} {p : Path}
    (hparse : Path.parse raw = .ok p) (hroot : p.scope = .root) :
    (∃ name rest, p.segments = .key name :: rest ∧
        (∀ item, InnermostOwner frames p item → resolve b frames p = item.walk p.segments) ∧
        ((∀ f ∈ frames, ¬ Owns f.item p) → resolve b frames p = b.lookup? p)) ∨
      ∃ position rest, p.segments = .index position :: rest ∧
        resolve b frames p = b.lookup? p := by
  obtain ⟨hne, -⟩ := Bindings.steps_of_parse hparse hroot
  obtain ⟨s, rest, hp⟩ := List.exists_cons_of_ne_nil hne
  cases s with
  | key name => exact .inl ⟨name, rest, hp, resolve_name b hroot hp⟩
  | index position => exact .inr ⟨position, rest, hp, resolve_number b frames hroot hp⟩

/-- An element that has the name hides those around it, even if the path ends there. -/
theorem resolve_scoped_hidden :
    let box := Value.map [("maker", .map [("town", .text "Bern")]), ("pens", .list [])]
    let pen := Value.map [("maker", .text "unknown")]
    let frames : List Frame := [⟨.text "blue", 0, 2⟩, ⟨pen, 1, 3⟩, ⟨box, 0, 1⟩]
    let p : Path := ⟨.root, [.key "maker", .key "town"]⟩
    Path.parse "maker.town" = .ok p ∧ InnermostOwner frames p pen ∧
      resolve (Bindings.bind box [] .strict) frames p = pen.walk p.segments := by
  intro box pen frames p
  have hparse : Path.parse "maker.town" = .ok p := Path.parse_eq_ok_iff.mpr (by decide +kernel)
  have howner : InnermostOwner frames p pen :=
    ⟨[⟨.text "blue", 0, 2⟩], ⟨pen, 1, 3⟩, [⟨box, 0, 1⟩], rfl, rfl, ⟨⟨_, rfl⟩, rfl⟩,
      by simp [Owns]⟩
  rcases resolve_scoped (Bindings.bind box [] .strict) frames hparse rfl with
    ⟨_, _, _, howned, _⟩ | ⟨_, _, hnumber, _⟩
  · exact ⟨hparse, howner, howned pen howner⟩
  · cases hnumber

/-- The innermost element has the number as a key, and the value comes from the bindings. -/
theorem resolve_digitKey :
    let element := Value.map [("0", .text "inner")]
    let frames : List Frame := [⟨element, 0, 1⟩]
    let p : Path := ⟨.root, [.index 0]⟩
    Path.parse "0" = .ok p ∧ InnermostOwner frames p element ∧
      element.walk p.segments = some (.text "inner") ∧
      resolve (Bindings.bind (.map [("0", .text "outer"), ("items", .list [element])]) [] .lenient)
        frames p = some (.text "outer") := by
  intro element frames p
  have hparse : Path.parse "0" = .ok p := Path.parse_eq_ok_iff.mpr (by decide +kernel)
  exact ⟨hparse, ⟨[], ⟨element, 0, 1⟩, [], rfl, rfl, ⟨⟨_, rfl⟩, rfl⟩, nofun⟩, rfl, rfl⟩

end Docket.Template
