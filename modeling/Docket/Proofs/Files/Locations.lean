import Docket.Files.Disk
import Docket.Proofs.Text.Trimming

/-!
# Locations below a directory

What is below a directory is found in the location that is made by joining the names that lead
there.  Seen from the directory, this is the names with slashes between them, whatever way the
directory itself is spelled (`relativeTo_below`).  The names can be told from it
(`pieces_ofNames`).

The reason is that a location which goes on behind a slash has the pieces of its beginning and then
those of the rest (`pieces_append`), and that cutting off steps takes pieces away from the start
only (`dropSteps?_append`).
-/

namespace Docket.Location

/-! ## Names -/

/-- A name that something in a directory can have. -/
structure PlainName (name : String) : Prop where
  nonempty : name.toList ≠ []
  ne_here : name ≠ "."
  ne_up : name ≠ ".."
  slashFree : ∀ c ∈ name.toList, (c == '/') = false

/-- Names with slashes between them. -/
def ofNames (names : List String) : String := "/".intercalate names

variable {location name : String} {names : List String}

lemma PlainName.step? (h : PlainName name) : step? name.toList = some (.name name) := by
  have hhere : name.toList ≠ ['.'] := fun heq => h.ne_here (String.toList_injective heq)
  have hup : name.toList ≠ ['.', '.'] := fun heq => h.ne_up (String.toList_injective heq)
  rw [Location.step?, if_neg (by simp [h.nonempty, hhere]), if_neg hup, String.ofList_toList]

/-- A piece between slashes is a name, except for a few. -/
lemma PlainName.of_mem_pieces {piece : String} (h : piece ∈ Disk.pieces location)
    (hne : ¬ (piece = "" ∨ piece = ".")) (hup : ¬ piece = "..") : PlainName piece := by
  obtain ⟨hempty, hhere⟩ := not_or.mp hne
  obtain ⟨cs, hcs, rfl⟩ := List.mem_map.mp h
  refine ⟨fun hnil => hempty ?_, hhere, hup, ?_⟩
  · exact String.toList_eq_nil_iff.mp hnil
  · rw [String.toList_ofList]
    exact Text.of_mem_splitAll hcs

/-- The name that a piece stands for. -/
lemma PlainName.of_step? {piece : List Char} (hpiece : ∀ c ∈ piece, (c == '/') = false)
    (h : Location.step? piece = some (.name name)) : PlainName name := by
  rw [Location.step?] at h
  split at h
  · cases h
  · rename_i hne
    obtain ⟨hnil, hhere⟩ := not_or.mp hne
    split at h
    · cases h
    · rename_i hup
      cases h
      refine ⟨by rwa [String.toList_ofList], fun heq => hhere ?_, fun heq => hup ?_, ?_⟩
      · simpa using congrArg String.toList heq
      · simpa using congrArg String.toList heq
      · rwa [String.toList_ofList]

/-- The last name of a location can be one. -/
lemma PlainName.of_lastName? (h : lastName? location = some name) : PlainName name := by
  rw [lastName?] at h
  split at h
  · rename_i hlast
    cases h
    have hmem := List.mem_of_getLast? hlast
    obtain ⟨⟨piece, step⟩, hp, rfl⟩ := List.mem_filterMap.mp hmem
    rw [pieces] at hp
    split at hp
    · cases hp
    · rename_i first rest hsplit
      have hslash : ∀ cs ∈ first :: rest, ∀ c ∈ cs, (c == '/') = false := by
        rw [← hsplit]
        exact fun cs hcs => Text.of_mem_splitAll hcs
      obtain ⟨hfirst, hrest⟩ := List.forall_mem_cons.mp hslash
      rcases List.mem_cons.mp hp with heq | hp
      · obtain ⟨rfl, hstep⟩ := Prod.mk.inj heq
        rw [firstStep?] at hstep
        split at hstep
        · cases hstep
        · split at hstep
          · cases hstep
          · exact .of_step? hfirst hstep.symm
      · obtain ⟨cs, hcs, heq⟩ := List.mem_map.mp hp
        obtain ⟨rfl, hstep⟩ := Prod.mk.inj heq
        exact .of_step? (hrest _ hcs) hstep
  · cases h

lemma toList_ofNames (names : List String) :
    (ofNames names).toList = List.intercalate ['/'] (names.map String.toList) := by
  rw [ofNames, String.toList_intercalate]
  rfl

lemma toList_ofNames_cons (name next : String) (rest : List String) :
    (ofNames (name :: next :: rest)).toList =
      name.toList ++ '/' :: (ofNames (next :: rest)).toList := by
  rw [toList_ofNames, toList_ofNames, List.map_cons, List.map_cons, List.intercalate_cons_cons]
  simp

/-- Cut at its slashes, a list of names falls into the names. -/
lemma splitAll_ofNames (h : ∀ n ∈ names, PlainName n) (hne : names ≠ []) :
    Text.splitAll (· == '/') (ofNames names).toList = names.map String.toList := by
  induction names with
  | nil => exact absurd rfl hne
  | cons name rest ih =>
      obtain ⟨hname, hrest⟩ := List.forall_mem_cons.mp h
      cases rest with
      | nil =>
          simp only [toList_ofNames, List.map_cons, List.map_nil, List.intercalate_singleton]
          exact Text.splitAll_of_forall hname.slashFree
      | cons next rest =>
          rw [toList_ofNames_cons, Text.splitAll_append_cons hname.slashFree (by rfl),
            ih hrest (by simp)]
          rfl

/-- The pieces between the slashes are the names. -/
lemma pieces_ofNames (h : ∀ n ∈ names, PlainName n) (hne : names ≠ []) :
    Disk.pieces (ofNames names) = names := by
  rw [Disk.pieces, splitAll_ofNames h hne, List.map_map]
  simp [Function.comp_def]

/-! ## Joining -/

/-- The location that names lead to from another one. -/
def below (location : String) (names : List String) : String := names.foldl join location

/-- What a location is joined to others behind, without the slash. -/
def lead (location : String) : List Char :=
  if location.toList.getLast? = some '/' then location.toList.dropLast else location.toList

lemma toList_join (hlocation : location.toList ≠ []) (h : PlainName name) :
    (join location name).toList = lead location ++ '/' :: name.toList := by
  have habsolute : isAbsolute name.toList = false := by
    obtain ⟨c, rest, hname⟩ := List.exists_cons_of_ne_nil h.nonempty
    have hc := h.slashFree c (by simp [hname])
    simpa [isAbsolute, hname] using hc
  have hempty : location.isEmpty = false := by
    simpa [← String.toList_eq_nil_iff] using hlocation
  simp only [join, habsolute, Bool.false_eq_true, if_false, hempty, Bool.false_or, lead]
  by_cases hlast : location.toList.getLast? = some '/'
  · have hsplit : location.toList.dropLast ++ ['/'] = location.toList :=
      List.dropLast_append_getLast? '/' hlast
    simp only [hlast, decide_true, if_true, String.toList_append]
    conv_lhs => rw [← hsplit]
    simp
  · simp [hlast]

lemma lead_join (hlocation : location.toList ≠ []) (h : PlainName name) :
    lead (join location name) = lead location ++ '/' :: name.toList := by
  have hlast : name.toList.getLast? ≠ some '/' := fun heq => by
    have hc := h.slashFree '/' (List.mem_of_getLast? heq)
    simp at hc
  have hjoin := toList_join hlocation h
  rw [lead, if_neg, hjoin]
  rw [hjoin, List.append_cons, List.getLast?_append_of_ne_nil _ h.nonempty]
  exact hlast

/-- Joining puts the names behind a slash. -/
lemma toList_below (hlocation : location.toList ≠ []) (h : ∀ n ∈ names, PlainName n)
    (hne : names ≠ []) :
    (below location names).toList = lead location ++ '/' :: (ofNames names).toList := by
  induction names generalizing location with
  | nil => exact absurd rfl hne
  | cons name rest ih =>
      obtain ⟨hname, hrest⟩ := List.forall_mem_cons.mp h
      cases rest with
      | nil => simpa [below, toList_ofNames] using toList_join hlocation hname
      | cons next rest =>
          have hjoin : (join location name).toList ≠ [] := by
            rw [toList_join hlocation hname]
            simp
          have hbelow := ih hjoin hrest (by simp)
          rw [lead_join hlocation hname] at hbelow
          rw [toList_ofNames_cons]
          simpa [below] using hbelow

/-! ## Cutting off steps -/

/-- The pieces of a text with their steps, if the first one is at the top or not. -/
def piecesFrom (isTop : Bool) (cs : List Char) : List (List Char × Option Step) :=
  match Text.splitAll (· == '/') cs with
  | [] => []
  | first :: rest => (first, firstStep? isTop first) :: rest.map fun p => (p, step? p)

lemma pieces_append (before after : List Char) :
    pieces (before ++ '/' :: after) =
      piecesFrom (isAbsolute (before ++ ['/'])) before ++
        (Text.splitAll (· == '/') after).map fun p => (p, step? p) := by
  have hne : Text.splitAll (· == '/') before ≠ [] := Text.splitAll_ne_nil
  obtain ⟨first, rest, hsplit⟩ := List.exists_cons_of_ne_nil hne
  have habsolute : isAbsolute (before ++ '/' :: after) = isAbsolute (before ++ ['/']) := by
    cases before <;> rfl
  rw [pieces, Text.splitAll_append_of_sep (by rfl), piecesFrom, hsplit, habsolute]
  simp

/-- The steps of a location are those of its lead. -/
lemma steps_lead (h : location.toList ≠ []) :
    (piecesFrom (isAbsolute (lead location ++ ['/'])) (lead location)).filterMap (·.2) =
      steps location := by
  rw [lead]
  split
  · rename_i hlast
    have hsplit : location.toList.dropLast ++ '/' :: [] = location.toList :=
      List.dropLast_append_getLast? '/' hlast
    rw [steps]
    conv_rhs => rw [← hsplit, pieces_append]
    simp [Text.splitAll, step?]
  · obtain ⟨c, rest, hcs⟩ := List.exists_cons_of_ne_nil h
    have habsolute : isAbsolute (location.toList ++ ['/']) = isAbsolute location.toList := by
      rw [hcs]
      rfl
    rw [habsolute]
    rfl

lemma steps_ne_nil (h : location.toList ≠ []) : steps location ≠ [] := by
  have hne : Text.splitAll (· == '/') location.toList ≠ [] := Text.splitAll_ne_nil
  obtain ⟨first, rest, hsplit⟩ := List.exists_cons_of_ne_nil hne
  have hfirst : (firstStep? (isAbsolute location.toList) first).isSome := by
    rw [firstStep?]
    split
    · rfl
    · rename_i habsolute
      split
      · rfl
      · rename_i hhere
        -- an empty first piece would mean a slash at the start
        have hnonempty : first ≠ [] := by
          rintro rfl
          obtain ⟨c, cs, hcs⟩ := List.exists_cons_of_ne_nil h
          rw [hcs, Text.splitAll] at hsplit
          split at hsplit
          · rename_i hc
            simp [isAbsolute, hcs, beq_iff_eq.mp hc] at habsolute
          · split at hsplit <;> cases hsplit
        rw [step?, if_neg (by simp [hnonempty, hhere])]
        split <;> rfl
  obtain ⟨s, hs⟩ := Option.isSome_iff_exists.mp hfirst
  simp [steps, pieces, hsplit, hs]

/-- Cutting off the steps of some pieces leaves what is behind these pieces, and maybe some of their
last ones, which stand for no steps. -/
lemma dropSteps?_append (ps tail : List (List Char × Option Step)) :
    ∃ skipped, (∀ p ∈ skipped, p.2.isNone) ∧
      dropSteps? (ps.filterMap (·.2)) (ps ++ tail) = some (skipped ++ tail) := by
  induction ps with
  | nil => exact ⟨[], by simp, by cases tail <;> rfl⟩
  | cons p ps ih =>
      obtain ⟨skipped, hskipped, hdrop⟩ := ih
      obtain ⟨piece, step⟩ := p
      cases step with
      | some s => exact ⟨skipped, hskipped, by simpa [dropSteps?] using hdrop⟩
      | none =>
          cases hsteps : ps.filterMap (·.2) with
          | nil =>
              -- no steps are left to cut off, so this piece and all that follow stay
              refine ⟨(piece, none) :: ps, ?_, by simp [dropSteps?, hsteps]⟩
              simpa [List.filterMap_eq_nil_iff] using hsteps
          | cons s rest =>
              rw [hsteps] at hdrop
              exact ⟨skipped, hskipped, by simpa [dropSteps?, hsteps] using hdrop⟩

/-- The pieces of names with slashes between them. -/
def piecesOf (names : List String) : List (List Char × Option Step) :=
  names.map fun n => (n.toList, some (.name n))

lemma trimmed_piecesOf (names : List String) : trimmed (piecesOf names) = piecesOf names := by
  have hlast : ∀ hne : piecesOf names ≠ [],
      ¬ ((piecesOf names).getLast hne).2.isNone = true := by
    intro hne
    simp [piecesOf]
  exact List.rdropWhile_eq_self_iff.mpr hlast

lemma glue_piecesOf (names : List String) : glue (piecesOf names) = ofNames names := by
  have hsteps : (piecesOf names).map (·.2) ≠ [some .top] := by
    cases names <;> simp [piecesOf]
  apply String.toList_injective
  rw [glue, if_neg hsteps, String.toList_ofList, toList_ofNames, piecesOf, List.map_map]
  rfl

/-- **Seen from a directory, what names lead to from there is these names.** -/
theorem relativeTo_below (hlocation : location.toList ≠ []) (h : ∀ n ∈ names, PlainName n)
    (hne : names ≠ []) : relativeTo (below location names) location = ofNames names := by
  have hpieces : pieces (below location names).toList =
      piecesFrom (isAbsolute (lead location ++ ['/'])) (lead location) ++ piecesOf names := by
    rw [toList_below hlocation h hne, pieces_append, splitAll_ofNames h hne, List.map_map, piecesOf]
    congr 1
    exact List.map_congr_left fun n hn => by simp [(h n hn).step?]
  obtain ⟨skipped, hskipped, hdrop⟩ :=
    dropSteps?_append (piecesFrom (isAbsolute (lead location ++ ['/'])) (lead location))
      (piecesOf names)
  rw [steps_lead hlocation] at hdrop
  -- what was skipped stands for no steps and goes, and a name comes next
  have hrest : (skipped ++ piecesOf names).dropWhile (fun p => p.2.isNone) = piecesOf names := by
    rw [List.dropWhile_append_of_pos hskipped]
    cases names <;> simp [piecesOf]
  simp only [relativeTo, hpieces, hdrop, List.isEmpty_eq_false_iff.mpr (steps_ne_nil hlocation),
    Bool.false_eq_true, if_false, hrest, trimmed_piecesOf, glue_piecesOf]

end Docket.Location
