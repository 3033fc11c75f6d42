import Docket.Bindings
import Docket.Proofs.Path.Canonical
import Docket.Proofs.Value.Settled

/-!
# The index and the tree

A value can be found in two ways: by following a path down the tree, and by looking its canonical
form up in the index.  Binding fills the index from the keys of maps, whatever characters they have,
and of two entries with one key the first counts.

`Value.members` puts lists and maps on one footing: the values directly below, each with the step
that the index writes for it.  Each entry of the index belongs to a descent through members
(`mem_flatten`).

Whether another entry comes first is decided between the members of one value.  Their places are
`Apart` if nothing at or below the one is written like something at or below the other.  Keys come
in increasing order, so a key that goes on like a path, such as `a.b`, stands behind its own
beginning `a` and is never found instead of it (`members_split`).  What is left are keys that are
read as one position, such as `05` and `5`, and an empty key at the root.
-/

namespace Docket

open Numeral Docket.Path

/-! ## Members -/

namespace Bindings

/-- The step that the index writes for a key of a map. -/
def keyStep (key : String) : Segment :=
  match positionKey? key with
  | some position => .index position
  | none => .key key

/-- The place of a member of the value at a place. -/
def memberPlace (place : List Char) (s : Segment) : List Char :=
  if place.isEmpty then leadChars s else place ++ stepChars s

lemma memberPlace_of_ne_nil {place : List Char} (h : place ≠ []) (s : Segment) :
    memberPlace place s = place ++ stepChars s := by
  rw [memberPlace, if_neg (by simpa using h)]

lemma stepChars_ne_nil (s : Segment) : stepChars s ≠ [] := by
  cases s <;> exact List.cons_ne_nil _ _

lemma memberPlace_ne_nil {place : List Char} (h : place ≠ []) (s : Segment) :
    memberPlace place s ≠ [] := by
  rw [memberPlace_of_ne_nil h]
  simp [h]

lemma memberPlace_index (place : List Char) (position : Nat) :
    memberPlace place (.index position) = place ++ bracketed position := by
  cases place <;> rfl

lemma entryPlace_eq (place : List Char) (key : String) :
    entryPlace place key = memberPlace place (keyStep key) := by
  rw [entryPlace, keyStep]
  cases positionKey? key with
  | some position => exact (memberPlace_index place position).symm
  | none => cases place <;> rfl

end Bindings

open Bindings

namespace Value

/-- The values directly below a value, each with the step that the index writes for it. -/
def members : Value → List (Segment × Value)
  | map entries => entries.map fun e => (keyStep e.1, e.2)
  | list items => items.zipIdx.map fun (v, position) => (.index position, v)
  | _ => []

lemma settled_of_mem_members {v : Value} {m : Segment × Value} (hv : v.settled = v)
    (h : m ∈ v.members) : m.2.settled = m.2 := by
  cases v with
  | map entries =>
      obtain ⟨e, he, rfl⟩ := List.mem_map.mp h
      exact (settled_map_iff.mp hv).2 e he
  | list items =>
      obtain ⟨x, hx, rfl⟩ := List.mem_map.mp h
      exact settled_list_iff.mp hv x.1 (List.fst_mem_of_mem_zipIdx hx)
  | _ => cases h

lemma everyMap_of_mem_members {check : List (String × Value) → Bool} {v : Value}
    {m : Segment × Value} (hv : v.everyMap check) (h : m ∈ v.members) : m.2.everyMap check := by
  cases v with
  | map entries =>
      obtain ⟨e, he, rfl⟩ := List.mem_map.mp h
      exact (everyMap_map_iff.mp hv).2 e he
  | list items =>
      obtain ⟨x, hx, rfl⟩ := List.mem_map.mp h
      exact everyMap_list_iff.mp hv x.1 (List.fst_mem_of_mem_zipIdx hx)
  | _ => cases h

/-- What members pass on to the value they belong to holds of all values. -/
theorem induction_members {P : Value → Prop} (h : ∀ v, (∀ m ∈ v.members, P m.2) → P v)
    (v : Value) : P v := by
  induction v using induction_parts with
  | null | bool | number | text => exact h _ fun m hm => by cases hm
  | list items ih =>
      apply h
      intro m hm
      obtain ⟨x, hx, rfl⟩ := List.mem_map.mp hm
      exact ih x.1 (List.fst_mem_of_mem_zipIdx hx)
  | map entries ih =>
      apply h
      intro m hm
      obtain ⟨e, he, rfl⟩ := List.mem_map.mp hm
      exact ih e he

/-- `v.Reaches steps w`: from one member to the next, the steps lead from `v` down to `w`. -/
inductive Reaches : Value → List Segment → Value → Prop where
  | here (v : Value) : Reaches v [] v
  | down {v w : Value} {m : Segment × Value} {rest : List Segment} : m ∈ v.members →
    Reaches m.2 rest w → Reaches v (m.1 :: rest) w

end Value

/-! ## Entries of the index -/

namespace Bindings

lemma flattenEntries_eq (place : List Char) (entries : List (String × Value)) :
    flattenEntries place entries =
      entries.flatMap fun e => flatten (memberPlace place (keyStep e.1)) e.2 := by
  induction entries with
  | nil => rfl
  | cons e rest ih => rw [flattenEntries, ih, List.flatMap_cons, entryPlace_eq]

lemma flattenItems_eq (place : List Char) (position : Nat) (items : List Value) :
    flattenItems place position items =
      (items.zipIdx position).flatMap fun x => flatten (memberPlace place (.index x.2)) x.1 := by
  induction items generalizing position with
  | nil => rfl
  | cons v rest ih =>
      rw [flattenItems, ih, List.zipIdx_cons, List.flatMap_cons, memberPlace_index]

/-- The index holds what stands below the members, one after another, and then the value itself. -/
lemma flatten_eq (place : List Char) (v : Value) :
    flatten place v = (v.members.flatMap fun m => flatten (memberPlace place m.1) m.2) ++
      if place.isEmpty then [] else [(String.ofList place, v)] := by
  cases v with
  | map entries => rw [flatten, flattenEntries_eq, Value.members, List.flatMap_map]
  | list items => rw [flatten, flattenItems_eq, Value.members, List.flatMap_map]
  | _ => cases place <;> rfl

/-- **An entry of the index belongs to a descent**, whose steps are written behind the place. -/
lemma mem_flatten {v w : Value} {place : List Char} (hplace : place ≠ []) {key : String}
    (h : (key, w) ∈ flatten place v) :
    ∃ steps, v.Reaches steps w ∧ key.toList = place ++ steps.flatMap stepChars := by
  induction v using Value.induction_members generalizing place with
  | h v ih =>
      rw [flatten_eq, List.mem_append, List.mem_flatMap] at h
      rcases h with ⟨m, hm, h⟩ | h
      · obtain ⟨steps, hreaches, hkey⟩ := ih m hm (memberPlace_ne_nil hplace m.1) h
        refine ⟨m.1 :: steps, .down hm hreaches, ?_⟩
        rw [hkey, memberPlace_of_ne_nil hplace, List.append_assoc, List.flatMap_cons]
      · rw [if_neg (by simpa using hplace), List.mem_singleton, Prod.mk.injEq] at h
        obtain ⟨rfl, rfl⟩ := h
        exact ⟨[], .here w, by simp⟩

/-- At the root, a descent takes at least one step. -/
lemma mem_flatten_root {v w : Value} {key : String} (h : (key, w) ∈ flatten [] v)
    (hlead : ∀ m ∈ v.members, leadChars m.1 ≠ []) :
    ∃ steps, v.Reaches steps w ∧ key.toList = canonicalChars steps := by
  rw [flatten_eq, List.mem_append, List.mem_flatMap] at h
  rcases h with ⟨m, hm, h⟩ | h
  · obtain ⟨steps, hreaches, hkey⟩ := mem_flatten (hlead m hm) h
    exact ⟨m.1 :: steps, .down hm hreaches, by rw [hkey, canonicalChars_cons]⟩
  · cases h

/-! ## Members apart -/

/-- Nothing at or below the place of the one step is written like something at or below the place
of the other. -/
def Apart (place : List Char) (s s' : Segment) : Prop :=
  ∀ r r', MarkLed r → MarkLed r' → memberPlace place s ++ r ≠ memberPlace place s' ++ r'

variable {place : List Char}

/-- Below a place that has a text, members differ in how their steps are written. -/
lemma stepChars_of_memberPlace (hplace : place ≠ []) {s s' : Segment} {r r' : List Char}
    (h : memberPlace place s ++ r = memberPlace place s' ++ r') :
    stepChars s ++ r = stepChars s' ++ r' := by
  rw [memberPlace_of_ne_nil hplace, memberPlace_of_ne_nil hplace, List.append_assoc,
    List.append_assoc] at h
  exact List.append_cancel_left h

lemma apart_of_ne {s s' : Segment} (hs : s.Plain) (hs' : s'.Plain) (hne : s ≠ s') :
    Apart place s s' := by
  intro r r' hr hr' h
  cases place with
  | nil => exact hne (leadChars_append_inj hs hs' hr hr' h).1
  | cons c place =>
      have hsteps := stepChars_of_memberPlace (List.cons_ne_nil _ _) h
      exact hne (stepChars_append_inj hs hs' hr hr' hsteps).1

/-- A key that comes before a name, however it is written, is apart from it. -/
lemma apart_key_of_lt {key name : String} (hname : (Segment.key name).Plain) (hlt : key < name) :
    Apart place (.key key) (.key name) := by
  have hchars {r r' : List Char} (hr : MarkLed r) : key.toList ++ r ≠ name.toList ++ r' := by
    intro h
    rcases List.append_eq_append_iff.mp h with ⟨more, heq, hmore⟩ | ⟨more, heq, -⟩
    · -- the name goes on where the key ends, but not with a mark
      cases more with
      | nil =>
          rw [List.append_nil, String.toList_inj] at heq
          exact hlt.ne heq.symm
      | cons c more =>
          have hc : isNameChar c := hname.2 c (by simp [heq])
          have hmark : isNameChar c = false := by
            rcases hr c (by simp [hmore]) with rfl | rfl <;>
              exact isNameChar_of_mem_stepMarks _ (by decide)
          rw [hc] at hmark
          cases hmark
    · -- the key goes on where the name ends, so it comes later
      rw [String.lt_iff_toList_lt, heq] at hlt
      exact absurd hlt List.le_append_left
  intro r r' hr hr' h
  cases place with
  | nil => exact hchars hr h
  | cons c place =>
      have hsteps := stepChars_of_memberPlace (List.cons_ne_nil _ _) h
      exact hchars hr (List.cons.inj hsteps).2

/-- A key that comes before the digits of a position does not start like the position in
brackets. -/
lemma apart_index_of_lt {key : String} {position : Nat}
    (hlt : key < String.ofList (digitsOf position)) (hkey : memberPlace place (.key key) ≠ []) :
    Apart place (.key key) (.index position) := by
  intro r r' hr hr' h
  cases place with
  | nil =>
      obtain ⟨c, cs, heq⟩ := List.exists_cons_of_ne_nil hkey
      obtain ⟨d, ds, hdigits, hd⟩ := digitsOf_eq_cons position
      have hchars : key.toList = c :: cs := heq
      rw [heq] at h
      obtain rfl : c = '[' := (List.cons.inj h).1
      rw [String.lt_iff_toList_lt, hchars, String.toList_ofList, hdigits] at hlt
      simp only [isDigit, Bool.and_eq_true, decide_eq_true_eq] at hd
      rcases List.cons_lt_cons_iff.mp hlt with hlt | ⟨rfl, -⟩
      · exact absurd (hlt.trans_le hd.2) (by decide)
      · exact absurd hd.2 (by decide)
  | cons c place =>
      have hsteps := stepChars_of_memberPlace (List.cons_ne_nil _ _) h
      exact absurd (List.cons.inj hsteps).1 (by decide)

/-! ## What comes before a member -/

/-- The key that a step selects in a map. -/
def spelling : Segment → String
  | .key name => name
  | .index position => String.ofList (digitsOf position)

lemma step_map (entries : List (String × Value)) (s : Segment) :
    (Value.map entries).step s = Value.lookup (spelling s) entries := by
  cases s <;> rfl

lemma keyStep_spelling {s : Segment} (h : s.WellFormed) : keyStep (spelling s) = s := by
  cases s with
  | key name =>
      obtain ⟨-, c, hc, hdigit⟩ := h
      have hposition : ¬ name.toList.all isDigit := by
        simp only [List.all_eq_true, not_forall]
        exact ⟨c, hc, by simp [hdigit]⟩
      simp [keyStep, spelling, positionKey?, hposition]
  | index position =>
      have hdigits : (digitsOf position).all isDigit :=
        List.all_eq_true.mpr fun _ => isDigit_of_mem_digitsOf
      simp [keyStep, spelling, positionKey?, hdigits, unsigned?_digitsOf h]

/-- Whether every key that is read as a position is spelled like it, or stands in a map without the
key that is. -/
def positionsSpelled (entries : List (String × Value)) : Bool :=
  entries.all fun e =>
    match positionKey? e.1 with
    | some position =>
      let digits := spelling (.index position)
      e.1 = digits || (Value.lookup digits entries).isNone
    | none => true

variable {entries : List (String × Value)} {e : String × Value}

lemma eq_of_positionsSpelled (h : positionsSpelled entries) (he : e ∈ entries) {position : Nat}
    {v : Value} (hposition : positionKey? e.1 = some position)
    (hlookup : Value.lookup (spelling (.index position)) entries = some v) :
    e.1 = spelling (.index position) := by
  have hspelled := List.all_eq_true.mp h e he
  simpa [hposition, hlookup] using hspelled

/-- A key that comes before the one that a step selects is apart from the step. -/
lemma apart_keyStep (hspelled : positionsSpelled entries) (he : e ∈ entries)
    (hplace : memberPlace place (keyStep e.1) ≠ []) {s : Segment} (hs : s.WellFormed) {v : Value}
    (hlookup : Value.lookup (spelling s) entries = some v) (hlt : e.1 < spelling s) :
    Apart place (keyStep e.1) s := by
  rw [keyStep] at hplace ⊢
  cases s with
  | key name =>
      split
      · exact apart_of_ne trivial hs.plain nofun
      · exact apart_key_of_lt hs.plain hlt
  | index position =>
      split at hplace
      · rename_i position' hposition
        refine apart_of_ne trivial trivial fun heq => ?_
        obtain rfl : position' = position := Segment.index.inj heq
        exact hlt.ne (eq_of_positionsSpelled hspelled he hposition hlookup)
      · exact apart_index_of_lt hlt hplace

/-- **A step down finds a member, and nothing before it is written like what is below it.** -/
lemma members_split {v c : Value} {s : Segment} (hv : v.settled = v)
    (hspelled : v.everyMap positionsSpelled) (hs : s.WellFormed) (hstep : v.step s = some c)
    (hplace : ∀ m ∈ v.members, memberPlace place m.1 ≠ []) :
    ∃ before after, v.members = before ++ (s, c) :: after ∧
      ∀ m ∈ before, Apart place m.1 s := by
  cases v with
  | map entries =>
      rw [step_map] at hstep
      obtain ⟨before, after, heq, -⟩ := Value.lookup_eq_some_iff.mp hstep
      have hincreasing := (Value.settled_map_iff.mp hv).1
      refine ⟨before.map fun e => (keyStep e.1, e.2), after.map fun e => (keyStep e.1, e.2), ?_, ?_⟩
      · simp [Value.members, heq, keyStep_spelling hs]
      · intro m hm
        obtain ⟨e, he, rfl⟩ := List.mem_map.mp hm
        have hmem : e ∈ entries := by
          rw [heq]
          exact List.mem_append_left _ he
        rw [heq] at hincreasing
        have hlt : e.1 < spelling s :=
          (List.pairwise_append.mp hincreasing).2.2 e he _ List.mem_cons_self
        exact apart_keyStep (Value.everyMap_map_iff.mp hspelled).1 hmem
          (hplace _ (List.mem_map_of_mem hmem)) hs hstep hlt
  | list items =>
      cases s with
      | key name => cases hstep
      | index position =>
          obtain ⟨hposition, hc⟩ := List.getElem?_eq_some_iff.mp hstep
          have heq : items.zipIdx = (items.take position).zipIdx ++
              (c, position) :: (items.drop (position + 1)).zipIdx (position + 1) := by
            have hsplit : items = items.take position ++ c :: items.drop (position + 1) := by
              rw [← hc, ← List.drop_eq_getElem_cons, List.take_append_drop]
            conv_lhs => rw [hsplit]
            simp [List.zipIdx_append, List.zipIdx_cons, Nat.min_eq_left hposition.le]
          refine ⟨_, _, by rw [Value.members, heq, List.map_append, List.map_cons], ?_⟩
          intro m hm
          obtain ⟨⟨item, position'⟩, hitem, rfl⟩ := List.mem_map.mp hm
          refine apart_of_ne trivial trivial fun hsame => ?_
          obtain rfl : position' = position := Segment.index.inj hsame
          have hbound := (List.mem_zipIdx hitem).2.1
          simp at hbound
  | _ => cases s <;> cases hstep

/-! ## Looking up what walking finds -/

/-- What is found below the place of a member is found in the whole, unless a member before it is
written alike. -/
lemma lookup_flatten_of_split {v c w : Value} {s : Segment} {rest : List Segment}
    {before after : List (Segment × Value)} (hsplit : v.members = before ++ (s, c) :: after)
    (hapart : ∀ m ∈ before, Apart place m.1 s)
    (hplace : ∀ m ∈ v.members, memberPlace place m.1 ≠ [])
    (h : Value.lookup (String.ofList (memberPlace place s ++ rest.flatMap stepChars))
      (flatten (memberPlace place s) c) = some w) :
    Value.lookup (String.ofList (memberPlace place s ++ rest.flatMap stepChars))
      (flatten place v) = some w := by
  have hbefore : Value.lookup (String.ofList (memberPlace place s ++ rest.flatMap stepChars))
      (before.flatMap fun m => flatten (memberPlace place m.1) m.2) = none := by
    refine Value.lookup_eq_none_iff.mpr fun e he heq => ?_
    obtain ⟨m, hm, he⟩ := List.mem_flatMap.mp he
    have hmem : m ∈ v.members := hsplit ▸ List.mem_append_left _ hm
    obtain ⟨steps, -, hkey⟩ := mem_flatten (hplace m hmem) he
    rw [← heq, String.toList_ofList] at hkey
    exact hapart m hm _ _ (markLed_steps steps) (markLed_steps rest) hkey.symm
  rw [flatten_eq, hsplit, List.flatMap_append, List.flatMap_cons, Value.lookup_append,
    Value.lookup_append, Value.lookup_append, hbefore, h]
  rfl

/-- A value stands in the index under its own place. -/
lemma lookup_flatten_self (hplace : place ≠ []) (v : Value) :
    Value.lookup (String.ofList place) (flatten place v) = some v := by
  -- what stands below the members is written longer than the place
  have hbelow : Value.lookup (String.ofList place)
      (v.members.flatMap fun m => flatten (memberPlace place m.1) m.2) = none := by
    refine Value.lookup_eq_none_iff.mpr fun e he heq => ?_
    obtain ⟨m, -, he⟩ := List.mem_flatMap.mp he
    obtain ⟨steps, -, hkey⟩ := mem_flatten (memberPlace_ne_nil hplace m.1) he
    rw [← heq, String.toList_ofList, memberPlace_of_ne_nil hplace, List.append_assoc,
      List.self_eq_append_right, List.append_eq_nil_iff] at hkey
    exact stepChars_ne_nil m.1 hkey.1
  rw [flatten_eq, if_neg (by simpa using hplace), Value.lookup_append, hbelow]
  simp [Value.lookup]

/-- **What walking finds is what looking up finds**, below any place. -/
lemma lookup_flatten_of_walk {v w : Value} {steps : List Segment} (hplace : place ≠ [])
    (hv : v.settled = v) (hspelled : v.everyMap positionsSpelled)
    (hsteps : ∀ s ∈ steps, s.WellFormed) (hwalk : v.walk steps = some w) :
    Value.lookup (String.ofList (place ++ steps.flatMap stepChars)) (flatten place v) = some w := by
  induction steps generalizing v place with
  | nil =>
      obtain rfl : v = w := Option.some.inj hwalk
      rw [List.flatMap_nil, List.append_nil]
      exact lookup_flatten_self hplace v
  | cons s rest ih =>
      obtain ⟨hs, hrest⟩ := List.forall_mem_cons.mp hsteps
      obtain ⟨c, hstep, hwalk⟩ := Option.bind_eq_some_iff.mp hwalk
      have hmembers (m : Segment × Value) (_ : m ∈ v.members) : memberPlace place m.1 ≠ [] :=
        memberPlace_ne_nil hplace m.1
      obtain ⟨before, after, hsplit, hapart⟩ := members_split hv hspelled hs hstep hmembers
      have hmem : (s, c) ∈ v.members := by simp [hsplit]
      have hfound := ih (memberPlace_ne_nil hplace s) (Value.settled_of_mem_members hv hmem)
        (Value.everyMap_of_mem_members hspelled hmem) hrest hwalk
      have hwhole := lookup_flatten_of_split hsplit hapart hmembers hfound
      rwa [memberPlace_of_ne_nil hplace, List.append_assoc] at hwhole

/-- What walking finds from the root is what looking up finds, if no member of the root has an empty
name. -/
lemma lookup_flatten_root_of_walk {v w : Value} {steps : List Segment} (hne : steps ≠ [])
    (hv : v.settled = v) (hspelled : v.everyMap positionsSpelled)
    (hlead : ∀ m ∈ v.members, leadChars m.1 ≠ []) (hsteps : ∀ s ∈ steps, s.WellFormed)
    (hwalk : v.walk steps = some w) :
    Value.lookup (String.ofList (canonicalChars steps)) (flatten [] v) = some w := by
  obtain ⟨s, rest, rfl⟩ := List.exists_cons_of_ne_nil hne
  obtain ⟨hs, hrest⟩ := List.forall_mem_cons.mp hsteps
  obtain ⟨c, hstep, hwalk⟩ := Option.bind_eq_some_iff.mp hwalk
  have hmembers : ∀ m ∈ v.members, memberPlace [] m.1 ≠ [] := hlead
  obtain ⟨before, after, hsplit, hapart⟩ := members_split hv hspelled hs hstep hmembers
  have hmem : (s, c) ∈ v.members := by simp [hsplit]
  have hfound := lookup_flatten_of_walk (hlead _ hmem) (Value.settled_of_mem_members hv hmem)
    (Value.everyMap_of_mem_members hspelled hmem) hrest hwalk
  rw [canonicalChars_cons]
  exact lookup_flatten_of_split hsplit hapart hmembers hfound

end Bindings

end Docket
