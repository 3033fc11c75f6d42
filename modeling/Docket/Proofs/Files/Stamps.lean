import Docket.Files.Discovery
import Docket.Proofs.Files.Changes
import Mathlib.Data.Set.Basic

/-!
# Stamps of template files

Whether template files have changed is told from their stamps: from where they are, seen from the
directory, and when they were changed last.  They are listed in the order of a walk.

On an orderly disk the list says no more and no less than which stamps there are
(`stamps_eq_iff`): it holds the stamps of all template files that names lead to from the directory,
and it is in the order of these names.
-/

namespace Docket.Discovery

open DiskEntry Location

/-- The stamps of the template files that names lead to from a directory. -/
def stampsBelow (discovery : Discovery) (disk : Disk) (root : String) : Set (String × Int) :=
  {stamp | ∃ top names text, disk.find root = .ok top ∧
    top.below? names = some (.file text stamp.2) ∧ stamp.1 = ofNames names ∧
    discovery.admits stamp.1}

variable {disk disk' : Disk} {root : String}

lemma find_of_isDirectory (h : disk.isDirectory root) :
    ∃ entries, disk.find root = .ok (.directory entries) := by
  rw [Disk.isDirectory] at h
  split at h
  · rename_i entries hfind
    exact ⟨entries, hfind⟩
  · cases h

/-- The empty location leads nowhere. -/
lemma nonempty_of_find {e : DiskEntry} (h : disk.find root = .ok e) : root.toList ≠ [] := by
  intro hnil
  rw [Disk.find, Disk.place, String.toList_eq_nil_iff.mp hnil] at h
  cases h

/-- The stamp of a file that names lead to. -/
lemma stamp_foundFrom {entries : List (String × DiskEntry)} (hroot : root.toList ≠ [])
    (h : (directory entries).Orderly) {x : List String × Option String × Int}
    (hx : x ∈ (directory entries).leaves) :
    stamp root (foundFrom root x) = (ofNames x.1, x.2.2) := by
  rw [stamp, foundFrom, relativeTo_below hroot (plain_of_mem_leaves h hx) (ne_nil_of_mem_leaves hx)]

/-- **The list of stamps has each stamp of a template file once**, in the order of names. -/
lemma exists_stamps (discovery : Discovery) (h : disk.Orderly) (hroot : disk.isDirectory root) :
    ∃ files, discovery.files disk root = .ok files ∧ OrderedBy Disk.pieces (stamps root files) ∧
      ∀ stamp, stamp ∈ stamps root files ↔ stamp ∈ discovery.stampsBelow disk root := by
  obtain ⟨entries, hfind⟩ := find_of_isDirectory hroot
  have hnonempty := nonempty_of_find hfind
  have htop := h.find hfind
  have hplain {x : List String × Option String × Int} (hx : x ∈ (directory entries).leaves) :
      Disk.pieces (ofNames x.1) = x.1 :=
    pieces_ofNames (plain_of_mem_leaves htop hx) (ne_nil_of_mem_leaves hx)
  refine ⟨_, by rw [files, Disk.files, hfind], ?_, fun stamp' => ?_⟩
  · -- the walk goes by increasing names, and these are the pieces of what is seen
    rw [files_eq_leaves, List.filter_map]
    refine List.pairwise_map.mpr (List.pairwise_map.mpr ?_)
    refine ((orderedBy_leaves htop).filter _).imp_of_mem fun {x y} hx hy hlt => ?_
    have hx := (List.mem_filter.mp hx).1
    have hy := (List.mem_filter.mp hy).1
    rw [stamp_foundFrom hnonempty htop hx, stamp_foundFrom hnonempty htop hy, hplain hx, hplain hy]
    exact hlt
  · simp only [stamps, files_eq_leaves, List.mem_map, List.mem_filter]
    constructor
    · rintro ⟨f, ⟨⟨⟨names, text, modified⟩, hx, rfl⟩, hadmits⟩, rfl⟩
      have hstamp := stamp_foundFrom hnonempty htop hx
      rw [hstamp]
      have hseen : relativeTo (foundFrom root (names, text, modified)).location root =
          ofNames names := congrArg Prod.fst hstamp
      rw [hseen] at hadmits
      exact ⟨_, names, text, hfind, (mem_leaves_iff htop).mp hx, rfl, hadmits⟩
    · obtain ⟨location, modified⟩ := stamp'
      rintro ⟨top, names, text, htop', hbelow, hlocation, hadmits⟩
      cases hfind.symm.trans htop'
      have hx := (mem_leaves_iff htop).mpr hbelow
      have hstamp := stamp_foundFrom hnonempty htop hx
      have hseen : relativeTo (foundFrom root (names, text, modified)).location root = location :=
        (congrArg Prod.fst hstamp).trans hlocation.symm
      refine ⟨_, ⟨⟨_, hx, rfl⟩, by rwa [hseen]⟩, ?_⟩
      rw [hstamp]
      exact Prod.ext hlocation.symm rfl

/-- Two disks have the same list of stamps if and only if they have the same stamps. -/
theorem stamps_eq_iff (discovery : Discovery) (h : disk.Orderly) (h' : disk'.Orderly)
    (hroot : disk.isDirectory root) (hroot' : disk'.isDirectory root) :
    ∃ files files', discovery.files disk root = .ok files ∧
      discovery.files disk' root = .ok files' ∧
      (stamps root files' = stamps root files ↔
        discovery.stampsBelow disk' root = discovery.stampsBelow disk root) := by
  obtain ⟨files, hfiles, hordered, hmem⟩ := exists_stamps discovery h hroot
  obtain ⟨files', hfiles', hordered', hmem'⟩ := exists_stamps discovery h' hroot'
  refine ⟨files, files', hfiles, hfiles', fun heq => ?_, fun heq => ?_⟩
  · ext stamp
    rw [← hmem', heq, hmem]
  · refine hordered'.eq_of_mem_iff hordered fun stamp => ?_
    rw [hmem', heq, hmem]

end Docket.Discovery
