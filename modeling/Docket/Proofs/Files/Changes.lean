import Docket.Proofs.Files.Trees
import Mathlib.Data.List.Infix

/-!
# Changes of files

Files are written, touched, removed and renamed (`FileChange`).  A disk that is orderly stays so
under each of these changes (`Disk.Orderly.changed`), and so under all of them one after another
(`Disk.Orderly.after`): the names that are added come from between the slashes of a location.
-/

namespace Docket

open Location

/-- A change of the files on a disk. -/
inductive FileChange where
  /-- A text is written into a file, after the directories above it. -/
  | write (location text : String) (modified : Int)
  /-- The time of a file's last change is set. -/
  | touch (location : String) (modified : Int)
  | remove (location : String)
  | rename (source target : String)
deriving DecidableEq, Repr

namespace Disk

/-- The disk after a change.  Where nothing can be written, nothing changes. -/
def changed (d : Disk) : FileChange → Disk
  | .write location text modified =>
    match d.write location text modified with
    | .ok d' => d'
    | .error _ => d
  | .touch location modified => d.touch location modified
  | .remove location => d.remove location
  | .rename source target => d.rename source target

/-- The disk after one change after another. -/
def after (d : Disk) (changes : List FileChange) : Disk := changes.foldl changed d

/-! ## Orderly disks -/

/-- Everything on the disk is in order, and so is the way to the working directory. -/
structure Orderly (d : Disk) : Prop where
  top : d.top.Orderly
  working : ∀ n ∈ d.working, PlainName n

variable {d d' : Disk} {location : String} {place place' pieces : List String}

namespace Orderly

lemma start (h : d.Orderly) (location : String) : ∀ n ∈ d.start location, PlainName n := by
  rw [Disk.start]
  split
  · exact nofun
  · exact h.working

lemma alter (h : d.Orderly) {f : Option DiskEntry → Option DiskEntry} (hf : DiskEntry.Keeps f)
    (hplace : ∀ n ∈ place, PlainName n) : (d.alter f place).Orderly := by
  refine ⟨?_, h.working⟩
  have hkeeps := hf.alterBelow hplace (some d.top) (fun e he => by cases he; exact h.top)
  rw [Disk.alter]
  cases htop : DiskEntry.alterBelow f place (some d.top) with
  | none => exact h.top
  | some e => exact hkeeps e htop

lemma find (h : d.Orderly) {e : DiskEntry} (he : d.find location = .ok e) : e.Orderly := by
  rw [Disk.find] at he
  split at he
  · cases he
  · split at he
    · rename_i hbelow
      cases he
      exact h.top.below? hbelow
    · cases he

end Orderly

/-! ## Places -/

/-- A place is led to through names: through those that were gone through already, and through
pieces that are names. -/
lemma plain_of_follow {top : DiskEntry} (hplace : ∀ n ∈ place, PlainName n)
    (hpieces : ∀ p ∈ pieces, p ∈ Disk.pieces location)
    (h : follow top place pieces = .ok place') : ∀ n ∈ place', PlainName n := by
  induction pieces generalizing place with
  | nil =>
      cases h
      exact hplace
  | cons piece rest ih =>
      obtain ⟨hpiece, hrest⟩ := List.forall_mem_cons.mp hpieces
      rw [follow] at h
      split at h
      · split at h
        · exact ih hplace hrest h
        · rename_i hne
          split at h
          · exact ih (fun n hn => hplace n (List.mem_of_mem_dropLast hn)) hrest h
          · rename_i hup
            split at h
            · have hname : PlainName piece := .of_mem_pieces hpiece hne hup
              exact ih (List.forall_mem_append.mpr ⟨hplace, by simpa using hname⟩) hrest h
            · cases h
      · cases h
      · cases h

lemma Orderly.plain_of_place (h : d.Orderly) (hplace : d.place location = .ok place) :
    ∀ n ∈ place, PlainName n := by
  rw [Disk.place] at hplace
  split at hplace
  · cases hplace
  · exact plain_of_follow (h.start location) (fun _ hp => hp) hplace

/-! ## Changing -/

lemma Orderly.makeThrough (h : d.Orderly) (hplace : ∀ n ∈ place, PlainName n)
    (hpieces : ∀ p ∈ pieces, p ∈ Disk.pieces location)
    (hmade : d.makeThrough place pieces = .ok d') : d'.Orderly := by
  induction pieces generalizing d place with
  | nil =>
      cases hmade
      exact h
  | cons piece rest ih =>
      obtain ⟨hpiece, hrest⟩ := List.forall_mem_cons.mp hpieces
      rw [Disk.makeThrough] at hmade
      split at hmade
      · exact ih h hplace hrest hmade
      · rename_i hne
        split at hmade
        · exact ih h (fun n hn => hplace n (List.mem_of_mem_dropLast hn)) hrest hmade
        · rename_i hup
          have hname : PlainName piece := .of_mem_pieces hpiece hne hup
          have hinner : ∀ n ∈ place ++ [piece], PlainName n :=
            List.forall_mem_append.mpr ⟨hplace, by simpa using hname⟩
          dsimp only at hmade
          split at hmade
          · exact ih h hinner hrest hmade
          · cases hmade
          · refine ih (h.alter (DiskEntry.keeps_const ?_) hinner) hinner hrest hmade
            rintro e ⟨⟩
            exact DiskEntry.orderly_emptyDirectory

lemma Orderly.makeDirectories (h : d.Orderly) (hmade : d.makeDirectories location = .ok d') :
    d'.Orderly := h.makeThrough (h.start location) (fun _ hp => hp) hmade

lemma Orderly.writeAt (h : d.Orderly) (hplace : ∀ n ∈ place, PlainName n) {name text : String}
    {modified : Int} (hname : name ∈ Disk.pieces location) (hempty : ¬ name = "")
    (hwrite : d.writeAt place name text modified = .ok d') : d'.Orderly := by
  rw [Disk.writeAt] at hwrite
  split at hwrite
  · cases hwrite
  · rename_i hpoints
    obtain ⟨hhere, hup⟩ := not_or.mp hpoints
    have hplain : PlainName name := .of_mem_pieces hname (not_or.mpr ⟨hempty, hhere⟩) hup
    dsimp only at hwrite
    split at hwrite
    · cases hwrite
    · cases hwrite
      refine h.alter (DiskEntry.keeps_const ?_)
        (List.forall_mem_append.mpr ⟨hplace, by simpa using hplain⟩)
      rintro e ⟨⟩
      exact .file _ _

lemma Orderly.write (h : d.Orderly) {text : String} {modified : Int}
    (hwrite : d.write location text modified = .ok d') : d'.Orderly := by
  rw [Disk.write] at hwrite
  split at hwrite
  · cases hwrite
  · rename_i made hmade
    have hmade := h.makeDirectories hmade
    dsimp only at hwrite
    split at hwrite
    · cases hwrite
    · rename_i hempty
      split at hwrite
      · cases hwrite
      · rename_i place hfollow
        have hplace : ∀ n ∈ place, PlainName n :=
          plain_of_follow (hmade.start location) (fun _ hp => List.mem_of_mem_dropLast hp) hfollow
        have hname : (Disk.pieces location).getLast?.getD "" ∈ Disk.pieces location := by
          cases hlast : (Disk.pieces location).getLast? with
          | none => simp [hlast] at hempty
          | some name => exact List.mem_of_getLast? hlast
        split at hwrite
        · exact hmade.writeAt hplace hname hempty hwrite
        · cases hwrite
        · cases hwrite

lemma Orderly.touch (h : d.Orderly) (location : String) (modified : Int) :
    (d.touch location modified).Orderly := by
  rw [Disk.touch]
  split
  · exact h
  · rename_i hplace
    refine h.alter (fun old hold e he => ?_) (h.plain_of_place hplace)
    split at he
    · cases he
      exact .file _ _
    · exact hold e he

lemma Orderly.remove (h : d.Orderly) (location : String) : (d.remove location).Orderly := by
  rw [Disk.remove]
  split
  · exact h
  · rename_i hplace
    exact h.alter (DiskEntry.keeps_const nofun) (h.plain_of_place hplace)

lemma Orderly.rename (h : d.Orderly) (source target : String) :
    (d.rename source target).Orderly := by
  rw [Disk.rename]
  split
  · rename_i e parent name hfind hparent hname
    split
    · exact h
    · rename_i made hmade
      have hmade := (h.remove source).makeDirectories hmade
      split
      · exact h
      · rename_i place hplace
        have hplain : ∀ n ∈ place, PlainName n := by
          split at hplace
          · cases hplace
            exact hmade.working
          · exact hmade.plain_of_place hplace
        refine hmade.alter (DiskEntry.keeps_const ?_)
          (List.forall_mem_append.mpr ⟨hplain, by simpa using PlainName.of_lastName? hname⟩)
        rintro e' ⟨⟩
        exact h.find hfind
  · exact h

/-- **No change takes the order of a disk away.** -/
theorem Orderly.changed (h : d.Orderly) (c : FileChange) : (d.changed c).Orderly := by
  cases c with
  | write location text modified =>
      rw [Disk.changed]
      split
      · rename_i hwrite
        exact h.write hwrite
      · exact h
  | touch location modified => exact h.touch location modified
  | remove location => exact h.remove location
  | rename source target => exact h.rename source target

/-- Nor does one change after another. -/
theorem Orderly.after (h : d.Orderly) (changes : List FileChange) : (d.after changes).Orderly := by
  induction changes generalizing d with
  | nil => exact h
  | cons c rest ih => exact ih (h.changed c)

end Disk

end Docket
