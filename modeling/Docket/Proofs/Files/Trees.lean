import Docket.Proofs.Entries.Lookup
import Docket.Proofs.Files.Locations
import Mathlib.Data.List.Lex
import Mathlib.Data.String.Basic

/-!
# Trees of files

A directory holds its entries under increasing names that can be names (`DiskEntry.Orderly`).
Changing what names lead to keeps a tree orderly (`Keeps.alterBelow`).

In an orderly tree the walk through a directory comes across every file once, in the order of the
names that lead there: `DiskEntry.leaves` lists these names, they are the ones under which a file is
found (`mem_leaves_iff`) and they increase (`orderedBy_leaves`).  So what is listed depends only on
what is there.
-/

namespace Docket

open Location

namespace DiskEntry

/-! ## Orderly trees -/

/-- Directories hold their entries in the order of their names, which can be names. -/
inductive Orderly : DiskEntry → Prop
  | file (text : Option String) (modified : Int) : Orderly (.file text modified)
  | directory {entries : List (String × DiskEntry)} (hnames : OrderedBy id entries)
      (hplain : ∀ x ∈ entries, PlainName x.1) (hentries : ∀ x ∈ entries, x.2.Orderly) :
      Orderly (.directory entries)

variable {e : DiskEntry} {entries : List (String × DiskEntry)} {name : String}
  {names : List String}

lemma orderly_emptyDirectory : emptyDirectory.Orderly := .directory .nil nofun nofun

lemma orderly_singleton (hname : PlainName name) (h : e.Orderly) :
    (directory [(name, e)]).Orderly :=
  .directory (List.pairwise_singleton _ _) (List.forall_mem_singleton.mpr hname)
    (List.forall_mem_singleton.mpr h)

lemma Orderly.below? (h : e.Orderly) {inner : DiskEntry} (hinner : e.below? names = some inner) :
    inner.Orderly := by
  induction names generalizing e with
  | nil =>
      cases hinner
      exact h
  | cons name rest ih =>
      cases h with
      | file => cases hinner
      | directory hnames hplain hentries =>
          obtain ⟨next, hnext, hrest⟩ := Option.bind_eq_some_iff.mp hinner
          exact ih (hentries _ (mem_of_lookup hnext)) hrest

/-! ## Changing -/

/-- A change leaves what is orderly orderly. -/
def Keeps (f : Option DiskEntry → Option DiskEntry) : Prop :=
  ∀ old, (∀ e ∈ old, e.Orderly) → ∀ e ∈ f old, e.Orderly

lemma keeps_const {new : Option DiskEntry} (h : ∀ e ∈ new, e.Orderly) : Keeps fun _ => new :=
  fun _ _ => h

/-- What is under a changed name is the change of what was there; all else was there before. -/
lemma mem_alter {f : Option DiskEntry → Option DiskEntry} {x : String × DiskEntry}
    (hx : x ∈ alter name f entries) :
    x ∈ entries ∨ x.1 = name ∧
      ∃ old, (∀ e ∈ old, (name, e) ∈ entries) ∧ f old = some x.2 := by
  -- the three places where a change is put in look the same
  have hnew {old : Option DiskEntry} (hmem : x ∈ (f old).toList.map fun e => (name, e)) :
      x.1 = name ∧ f old = some x.2 := by
    obtain ⟨e, he, rfl⟩ := List.mem_map.mp hmem
    exact ⟨rfl, Option.mem_toList.mp he⟩
  induction entries with
  | nil =>
      obtain ⟨hname, hf⟩ := hnew hx
      exact .inr ⟨hname, none, nofun, hf⟩
  | cons entry rest ih =>
      rw [alter] at hx
      split at hx
      · rcases List.mem_append.mp hx with hx | hx
        · obtain ⟨hname, hf⟩ := hnew hx
          exact .inr ⟨hname, none, nofun, hf⟩
        · exact .inl hx
      · split at hx
        · rename_i heq
          rcases List.mem_append.mp hx with hx | hx
          · obtain ⟨hname, hf⟩ := hnew hx
            refine .inr ⟨hname, some entry.2, ?_, hf⟩
            rintro e ⟨⟩
            rw [heq]
            exact List.mem_cons_self ..
          · exact .inl (List.mem_cons_of_mem _ hx)
        · rcases List.mem_cons.mp hx with rfl | hx
          · exact .inl (List.mem_cons_self ..)
          · rcases ih hx with hmem | ⟨hname, old, hold, hf⟩
            · exact .inl (List.mem_cons_of_mem _ hmem)
            · exact .inr ⟨hname, old, fun e he => List.mem_cons_of_mem _ (hold e he), hf⟩

/-- Changing what is under a name keeps the names in order. -/
lemma orderedBy_alter (f : Option DiskEntry → Option DiskEntry) (h : OrderedBy id entries) :
    OrderedBy id (alter name f entries) := by
  have hnew {old : Option DiskEntry} {rest : List (String × DiskEntry)} (hrest : OrderedBy id rest)
      (hlt : ∀ x ∈ rest, name < x.1) :
      OrderedBy id (((f old).toList.map fun e => (name, e)) ++ rest) := by
    cases f old with
    | none => exact hrest
    | some e => exact List.pairwise_cons.mpr ⟨hlt, hrest⟩
  induction entries with
  | nil =>
      have hnone := @hnew none [] h nofun
      rwa [List.append_nil] at hnone
  | cons entry rest ih =>
      obtain ⟨hentry, hrest⟩ := List.pairwise_cons.mp h
      rw [alter]
      split
      · rename_i hlt
        refine hnew h (List.forall_mem_cons.mpr ⟨hlt, fun x hx => ?_⟩)
        exact lt_trans hlt (hentry x hx)
      · split
        · rename_i heq
          exact hnew hrest (heq ▸ hentry)
        · rename_i hlt hne
          refine List.pairwise_cons.mpr ⟨fun x hx => ?_, ih hrest⟩
          rcases mem_alter hx with hx | ⟨hname, -⟩
          · exact hentry x hx
          · have hle : entry.1 < name := lt_of_le_of_ne (not_lt.mp hlt) (Ne.symm hne)
            simpa [hname] using hle

lemma orderly_alter {f : Option DiskEntry → Option DiskEntry} (hf : Keeps f)
    (hname : PlainName name) (h : (directory entries).Orderly) :
    (directory (alter name f entries)).Orderly := by
  cases h with
  | directory hnames hplain hentries =>
      refine .directory (orderedBy_alter f hnames) (fun x hx => ?_) (fun x hx => ?_)
      · rcases mem_alter hx with hx | ⟨heq, -⟩
        · exact hplain x hx
        · exact heq ▸ hname
      · rcases mem_alter hx with hx | ⟨-, old, hold, hnew⟩
        · exact hentries x hx
        · exact hf old (fun e he => hentries (name, e) (hold e he)) x.2 hnew

/-- **Changing what names lead to keeps a tree orderly.** -/
lemma Keeps.alterBelow {f : Option DiskEntry → Option DiskEntry} (hf : Keeps f)
    (h : ∀ n ∈ names, PlainName n) : Keeps (DiskEntry.alterBelow f names) := by
  induction names with
  | nil => exact hf
  | cons name rest ih =>
      obtain ⟨hname, hrest⟩ := List.forall_mem_cons.mp h
      intro old hold e he
      match old with
      | none => cases he
      | some (.file text modified) => exact hold e he
      | some (.directory entries) =>
          cases he
          exact orderly_alter (ih hrest) hname (hold _ rfl)

/-! ## Walking -/

mutual

/-- The files at and below an entry, under the names that lead there. -/
def leaves : DiskEntry → List (List String × Option String × Int)
  | .file text modified => [([], text, modified)]
  | .directory entries => leavesOf entries

/-- The files at and below the entries of a directory. -/
def leavesOf : List (String × DiskEntry) → List (List String × Option String × Int)
  | [] => []
  | (name, e) :: rest => (leaves e).map (fun x => (name :: x.1, x.2)) ++ leavesOf rest

end

lemma leavesOf_eq_flatMap (entries : List (String × DiskEntry)) :
    leavesOf entries =
      entries.flatMap fun entry => (leaves entry.2).map fun x => (entry.1 :: x.1, x.2) := by
  induction entries with
  | nil => rfl
  | cons entry rest ih => rw [leavesOf, List.flatMap_cons, ih]

/-- A file that is found where names lead to from a location. -/
def foundFrom (location : String) (x : List String × Option String × Int) : FoundFile :=
  ⟨below location x.1, x.2.1, x.2.2⟩

mutual

/-- A walk finds the files where their names lead to. -/
lemma files_eq_leaves (location : String) :
    (e : DiskEntry) → files location e = (leaves e).map (foundFrom location)
  | .file _ _ => rfl
  | .directory entries => filesOf_eq_leavesOf location entries

lemma filesOf_eq_leavesOf (location : String) :
    (entries : List (String × DiskEntry)) →
      filesOf location entries = (leavesOf entries).map (foundFrom location)
  | [] => rfl
  | (name, e) :: rest => by
      rw [filesOf, leavesOf, files_eq_leaves (join location name) e,
        filesOf_eq_leavesOf location rest, List.map_append, List.map_map]
      rfl

end

/-- The names in a walk are those that lead to files. -/
lemma mem_leaves_iff (h : e.Orderly) {text : Option String} {modified : Int} :
    (names, text, modified) ∈ e.leaves ↔ e.below? names = some (.file text modified) := by
  induction h generalizing names with
  | file text' modified' =>
      cases names <;> simp [leaves, below?, eq_comm]
  | @directory entries hnames hplain hentries ih =>
      rw [leaves, leavesOf_eq_flatMap]
      cases names with
      | nil => simp [below?]
      | cons name rest =>
          simp only [List.mem_flatMap, List.mem_map, Prod.exists, Prod.mk.injEq, List.cons.injEq,
            below?, Option.bind_eq_some_iff, hnames.lookup_eq_some_iff]
          constructor
          · rintro ⟨_, e, hmem, _, _, _, hleaf, ⟨rfl, rfl⟩, rfl, rfl⟩
            exact ⟨e, hmem, (ih _ hmem).mp hleaf⟩
          · rintro ⟨e, hmem, hbelow⟩
            have hleaf := (ih _ hmem).mpr hbelow
            exact ⟨name, e, hmem, rest, text, modified, hleaf, ⟨rfl, rfl⟩, rfl, rfl⟩

lemma plain_of_mem_leaves (h : e.Orderly) {x : List String × Option String × Int}
    (hx : x ∈ e.leaves) : ∀ n ∈ x.1, PlainName n := by
  induction h generalizing x with
  | file =>
      cases List.mem_singleton.mp hx
      exact nofun
  | directory hnames hplain hentries ih =>
      rw [leaves, leavesOf_eq_flatMap] at hx
      obtain ⟨entry, hentry, hx⟩ := List.mem_flatMap.mp hx
      obtain ⟨y, hy, rfl⟩ := List.mem_map.mp hx
      exact List.forall_mem_cons.mpr ⟨hplain entry hentry, ih entry hentry hy⟩

/-- Names lead into a directory. -/
lemma ne_nil_of_mem_leaves {x : List String × Option String × Int}
    (hx : x ∈ (directory entries).leaves) : x.1 ≠ [] := by
  rw [leaves, leavesOf_eq_flatMap] at hx
  obtain ⟨entry, -, hx⟩ := List.mem_flatMap.mp hx
  obtain ⟨y, -, rfl⟩ := List.mem_map.mp hx
  exact List.cons_ne_nil _ _

/-- **A walk through an orderly tree goes by increasing names.** -/
lemma orderedBy_leaves (h : e.Orderly) : OrderedBy id e.leaves := by
  induction h with
  | file => exact List.pairwise_singleton _ _
  | directory hnames hplain hentries ih =>
      rw [leaves, leavesOf_eq_flatMap]
      refine List.pairwise_flatMap.mpr ⟨fun entry hentry => ?_, hnames.imp fun hlt x hx y hy => ?_⟩
      · -- below the same name the rest decides
        exact List.pairwise_map.mpr
          ((ih entry hentry).imp fun hlt => List.cons_lt_cons_self.mpr hlt)
      · obtain ⟨x, -, rfl⟩ := List.mem_map.mp hx
        obtain ⟨y, -, rfl⟩ := List.mem_map.mp hy
        exact List.Lex.rel hlt

end DiskEntry

end Docket
