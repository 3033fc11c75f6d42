import Docket.Proofs.Bindings.Index

/-!
# Looking up and walking

Outside of loops a path is looked up in the index, inside of loops it is followed down an element.
The two ways agree on values whose keys are names (`lookup?_eq_walk`).  Of other values one half is
left: what walking finds, looking up finds too, whatever characters keys have (`lookup?_of_walk`).
Two kinds of keys have to be kept out even for that.  Numbers with leading zeros are read as
positions, so `05` stands in the index where `5` belongs (`lookup?_leadingZero`); and what an empty
key of the root holds is taken for values of the root itself (`lookup?_emptyKey`).
-/

namespace Docket

open Numeral Docket.Path Bindings

/-! ## Names as keys -/

namespace Bindings

/-- Whether a key is a name, and no number with a leading zero. -/
def isPlainKey (key : String) : Bool :=
  key ≠ "" && key.toList.all isNameChar &&
    (!key.toList.all isDigit || key = "0" || key.toList.head? ≠ some '0')

/-- Whether all keys of a map are names, none of them a number with a leading zero. -/
def plainKeys (entries : List (String × Value)) : Bool := entries.all fun e => isPlainKey e.1

/-- A plain key that is read as a position is spelled like it. -/
lemma spelling_of_isPlainKey {key : String} (h : isPlainKey key) {position : Nat}
    (hposition : positionKey? key = some position) : spelling (.index position) = key := by
  simp only [positionKey?] at hposition
  split at hposition
  · rename_i hdigits
    simp only [isPlainKey, Bool.and_eq_true, decide_eq_true_eq, hdigits, Bool.not_true,
      Bool.false_or, Bool.or_eq_true] at h
    have hlead : key.toList = ['0'] ∨ key.toList.head? ≠ some '0' := by
      refine h.2.imp (fun hzero => ?_) id
      rw [hzero]
      rfl
    rw [spelling, digitsOf_of_unsigned? (List.all_eq_true.mp hdigits) hlead hposition,
      String.ofList_toList]
  · cases hposition

lemma spelling_keyStep {key : String} (h : isPlainKey key) : spelling (keyStep key) = key := by
  rw [keyStep]
  split
  · rename_i position hposition
    exact spelling_of_isPlainKey h hposition
  · rfl

lemma plain_keyStep {key : String} (h : isPlainKey key) : (keyStep key).Plain := by
  rw [keyStep]
  split
  · trivial
  · simp only [isPlainKey, Bool.and_eq_true, decide_eq_true_eq, List.all_eq_true] at h
    exact h.1

lemma positionsSpelled_of_plainKeys {entries : List (String × Value)} (h : plainKeys entries) :
    positionsSpelled entries := by
  refine List.all_eq_true.mpr fun e he => ?_
  have hplain : isPlainKey e.1 := List.all_eq_true.mp h e he
  split
  · rename_i position hposition
    simp [spelling_of_isPlainKey hplain hposition]
  · rfl

end Bindings

namespace Value

lemma everyMap_imp {check check' : List (String × Value) → Bool} {v : Value}
    (himp : ∀ entries, check entries → check' entries) (h : v.everyMap check) :
    v.everyMap check' := by
  induction v using induction_members with
  | h v ih =>
      cases v with
      | map entries =>
          obtain ⟨hentries, hchildren⟩ := everyMap_map_iff.mp h
          refine everyMap_map_iff.mpr ⟨himp entries hentries, fun e he => ?_⟩
          exact ih (keyStep e.1, e.2) (List.mem_map_of_mem he) (hchildren e he)
      | list items =>
          refine everyMap_list_iff.mpr fun item hitem => ?_
          obtain ⟨position, hposition⟩ := List.getElem?_of_mem hitem
          have hmem : (item, position) ∈ items.zipIdx := List.mem_zipIdx_iff_getElem?.mpr hposition
          exact ih (.index position, item) (List.mem_map_of_mem hmem)
            (everyMap_list_iff.mp h item hitem)
      | _ => rfl

/-- Among plain keys, a member is what one step down finds. -/
lemma step_of_mem_members {v : Value} {m : Segment × Value} (hv : v.settled = v)
    (hkeys : v.everyMap plainKeys) (h : m ∈ v.members) : v.step m.1 = some m.2 ∧ m.1.Plain := by
  cases v with
  | map entries =>
      obtain ⟨e, he, rfl⟩ := List.mem_map.mp h
      have hplain : isPlainKey e.1 :=
        List.all_eq_true.mp (everyMap_map_iff.mp hkeys).1 e he
      rw [step_map, spelling_keyStep hplain]
      exact ⟨(settled_map_iff.mp hv).1.lookup_of_mem he, plain_keyStep hplain⟩
  | list items =>
      obtain ⟨⟨item, position⟩, hitem, rfl⟩ := List.mem_map.mp h
      exact ⟨List.mem_zipIdx_iff_getElem?.mp hitem, trivial⟩
  | _ => cases h

/-- Among plain keys, a descent is a walk. -/
lemma Reaches.walk_eq {v w : Value} {steps : List Segment} (h : v.Reaches steps w)
    (hv : v.settled = v) (hkeys : v.everyMap plainKeys) :
    v.walk steps = some w ∧ ∀ s ∈ steps, s.Plain := by
  induction h with
  | here v => exact ⟨rfl, nofun⟩
  | down hm _ ih =>
      obtain ⟨hstep, hplain⟩ := step_of_mem_members hv hkeys hm
      obtain ⟨hwalk, hrest⟩ :=
        ih (settled_of_mem_members hv hm) (everyMap_of_mem_members hkeys hm)
      rw [walk, hstep]
      exact ⟨hwalk, List.forall_mem_cons.mpr ⟨hplain, hrest⟩⟩

/-- A value without an empty key at the root has no member with an empty name. -/
lemma leadChars_ne_nil_of_get?_eq_none {v : Value} (h : v.get? "" = none) {m : Segment × Value}
    (hm : m ∈ v.members) : leadChars m.1 ≠ [] := by
  cases v with
  | map entries =>
      obtain ⟨e, he, rfl⟩ := List.mem_map.mp hm
      have hne : "" ≠ e.1 := lookup_eq_none_iff.mp h e he
      rw [keyStep]
      split
      · exact List.cons_ne_nil _ _
      · simpa [leadChars] using hne.symm
  | list items =>
      obtain ⟨x, -, rfl⟩ := List.mem_map.mp hm
      exact List.cons_ne_nil _ _
  | _ => cases hm

end Value

namespace Bindings

lemma everyMap_positionsSpelled {v : Value} (h : v.everyMap plainKeys) :
    v.everyMap positionsSpelled :=
  v.everyMap_imp (fun _ => positionsSpelled_of_plainKeys) h

/-- **The index holds what walking finds, and nothing else**, if all keys are names. -/
lemma lookup_flatten_eq_walk {v : Value} (hv : v.settled = v) (hkeys : v.everyMap plainKeys)
    {steps : List Segment} (hne : steps ≠ []) (hsteps : ∀ s ∈ steps, s.WellFormed) :
    Value.lookup (String.ofList (canonicalChars steps)) (flatten [] v) = v.walk steps := by
  have hlead (m : Segment × Value) (hm : m ∈ v.members) : leadChars m.1 ≠ [] :=
    leadChars_ne_nil (Value.step_of_mem_members hv hkeys hm).2
  cases hwalk : v.walk steps with
  | some w =>
      exact lookup_flatten_root_of_walk hne hv (everyMap_positionsSpelled hkeys) hlead hsteps hwalk
  | none =>
      refine Value.lookup_eq_none_iff.mpr fun e he heq => ?_
      obtain ⟨steps', hreaches, hkey⟩ := mem_flatten_root he hlead
      obtain ⟨hwalk', hplain⟩ := hreaches.walk_eq hv hkeys
      rw [← heq, String.toList_ofList] at hkey
      obtain rfl : steps = steps' :=
        canonicalChars_injective (fun s hs => (hsteps s hs).plain) hplain hkey
      rw [hwalk] at hwalk'
      cases hwalk'

/-! ## Bound values -/

/-- The steps that reading gives can be read again; seen from the root there is at least one. -/
lemma steps_of_parse {raw : String} {p : Path} (hparse : Path.parse raw = .ok p)
    (hroot : p.scope = .root) : p.segments ≠ [] ∧ ∀ s ∈ p.segments, s.WellFormed := by
  have hp := Path.parse?_wellFormed (Path.parse_eq_ok_iff.mp hparse)
  have hlead := hp.lead
  rw [hroot] at hlead
  exact ⟨hlead.1, hp.steps⟩

/-- **Looking up and walking agree.**  If all keys of a value are names, none of them a number with
a leading zero, then every path that is seen from the root is looked up as it is walked, whether
there is anything to find or not. -/
theorem lookup?_eq_walk {v : Value} (hv : v.settled = v) (hkeys : v.everyMap plainKeys)
    (strictness : Strictness) {raw : String} {p : Path} (hparse : Path.parse raw = .ok p)
    (hroot : p.scope = .root) : (bind v [] strictness).lookup? p = v.walk p.segments := by
  obtain ⟨hne, hsteps⟩ := steps_of_parse hparse hroot
  exact lookup_flatten_eq_walk hv hkeys hne hsteps

/-- Digits select an entry of a map and an item of a list. -/
theorem lookup?_eq_walk_digits :
    let codes := Value.map [("0", .text "none"), ("404", .list [.text "gone", .text "lost"])]
    let v := Value.map [("codes", codes), ("status-text", .null)]
    (bind v [] .strict).lookup? ⟨.root, [.key "codes", .index 404, .index 1]⟩ =
        v.walk [.key "codes", .index 404, .index 1] ∧
      (bind v [] .lenient).lookup? ⟨.root, [.key "codes", .index 40]⟩ =
        v.walk [.key "codes", .index 40] := by
  intro codes v
  have hv : v.settled = v := rfl
  have hkeys : v.everyMap plainKeys := by decide +kernel
  have hitem : Path.parse "codes.404[1]" = .ok ⟨.root, [.key "codes", .index 404, .index 1]⟩ :=
    Path.parse_eq_ok_iff.mpr (by decide +kernel)
  have hmissing : Path.parse " codes[40]" = .ok ⟨.root, [.key "codes", .index 40]⟩ :=
    Path.parse_eq_ok_iff.mpr (by decide +kernel)
  exact ⟨lookup?_eq_walk hv hkeys .strict hitem rfl, lookup?_eq_walk hv hkeys .lenient hmissing rfl⟩

/-- **What walking finds, looking up finds**, whatever characters keys have: no key hides the value
of another path.  Kept out are an empty key at the root, and a number with leading zeros beside the
number that it is read as. -/
theorem lookup?_of_walk {v w : Value} (hv : v.settled = v)
    (hspelled : v.everyMap positionsSpelled) (hempty : v.get? "" = none) (strictness : Strictness)
    {raw : String} {p : Path} (hparse : Path.parse raw = .ok p) (hroot : p.scope = .root)
    (hwalk : v.walk p.segments = some w) : (bind v [] strictness).lookup? p = some w := by
  obtain ⟨hne, hsteps⟩ := steps_of_parse hparse hroot
  exact lookup_flatten_root_of_walk hne hv hspelled
    (fun _ => Value.leadChars_ne_nil_of_get?_eq_none hempty) hsteps hwalk

/-- Keys that are written like paths hide nothing. -/
theorem lookup?_of_walk_dotted :
    let v := Value.map
      [("[0]", .null), ("a", .map [("", .null), ("05", .null), ("b", .text "below")]),
        ("a.b", .text "dotted")]
    (bind v [] .strict).lookup? ⟨.root, [.key "a", .key "b"]⟩ = some (.text "below") :=
  lookup?_of_walk rfl (by decide +kernel) rfl .strict
    (Path.parse_eq_ok_iff.mpr (by decide +kernel : Path.parse? "a.b" = some _)) rfl rfl

/-- A number with a leading zero takes the place of the number without it. -/
theorem lookup?_leadingZero :
    let v := Value.map [("codes", .map [("05", .text "x"), ("5", .text "y")])]
    v.settled = v ∧
      Path.parse "codes.5" = .ok ⟨.root, [.key "codes", .index 5]⟩ ∧
      v.walk [.key "codes", .index 5] = some (.text "y") ∧
      (bind v [] .lenient).lookup? ⟨.root, [.key "codes", .index 5]⟩ = some (.text "x") := by
  exact ⟨rfl, Path.parse_eq_ok_iff.mpr (by decide +kernel), rfl, rfl⟩

/-- What an empty key of the root holds takes the place of what the root holds. -/
theorem lookup?_emptyKey :
    let v := Value.map [("", .map [("a", .text "x")]), ("a", .text "y")]
    v.settled = v ∧
      Path.parse "a" = .ok ⟨.root, [.key "a"]⟩ ∧
      v.walk [.key "a"] = some (.text "y") ∧
      (bind v [] .lenient).lookup? ⟨.root, [.key "a"]⟩ = some (.text "x") := by
  exact ⟨rfl, Path.parse_eq_ok_iff.mpr (by decide +kernel), rfl, rfl⟩

end Bindings

end Docket
