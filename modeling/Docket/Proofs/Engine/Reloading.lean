import Docket.Proofs.Engine.Sharing
import Docket.Proofs.Files.Stamps

/-!
# Loading templates again

Templates are loaded again as a whole or not at all.  If it fails, wherever that may be, the session
is what it was; if it succeeds, the engine holds what a fresh load of its directory gives, and its
cache is empty (`Session.ReloadsWhole`).

Whether it is time to do so is told from the stamps of the template files.  After any changes of an
orderly disk under which the directory is still there, an engine is outdated exactly if the stamps
below its directory are not those that were there when it loaded them.
-/

namespace Docket

variable {disk : Disk} {root : String} {config : Config} {l : Library}

section Reloading

variable [Objections]

namespace Library

/-- What a library says about where it comes from. -/
lemma origin_of_load (h : load disk root config = .ok l) :
    disk.isDirectory root ∧ ∃ discovery files, Discovery.ofConfig config = .ok discovery ∧
      discovery.files disk root = .ok files ∧
      l.origin = some ⟨root, discovery, Discovery.stamps root files⟩ := by
  rw [load] at h
  split at h
  · cases h
  · rename_i hroot
    refine ⟨by simpa using hroot, ?_⟩
    split at h
    · cases h
    · rename_i discovery hdiscovery
      split at h
      · cases h
      · rename_i files hfiles
        split at h <;> cases h
        exact ⟨discovery, files, hdiscovery, hfiles, rfl⟩

/-- A library is up to date on the disk that it was loaded from. -/
lemma isStale_of_load (h : load disk root config = .ok l) : l.isStale disk = .ok false := by
  obtain ⟨-, discovery, files, -, hfiles, horigin⟩ := origin_of_load h
  simp only [isStale, horigin, hfiles]
  simp

/-- On orderly disks a library is outdated if and only if there are other stamps. -/
lemma isStale_iff_stamps {disk' : Disk} (hdisk : disk.Orderly) (hdisk' : disk'.Orderly)
    (h : load disk root config = .ok l) (hroot' : disk'.isDirectory root) :
    ∃ discovery stale, Discovery.ofConfig config = .ok discovery ∧ l.isStale disk' = .ok stale ∧
      (stale = false ↔
        discovery.stampsBelow disk' root = discovery.stampsBelow disk root) := by
  obtain ⟨hroot, discovery, loaded, hdiscovery, hloaded, horigin⟩ := origin_of_load h
  obtain ⟨files, files', hfiles, hfiles', hiff⟩ :=
    discovery.stamps_eq_iff hdisk hdisk' hroot hroot'
  cases hloaded.symm.trans hfiles
  refine ⟨discovery, decide (Discovery.stamps root files' ≠ Discovery.stamps root loaded),
    hdiscovery, ?_, ?_⟩
  · simp only [isStale, horigin, hfiles']
  · rw [decide_eq_false_iff_not, not_not, hiff]

end Library

namespace Session

/-- A session has become one that holds what a fresh load gives, with nothing in its cache. -/
def HoldsFresh (s : Session) (disk : Disk) (s' : Session) : Prop :=
  ∃ l, Library.load disk s.engine.root s.engine.config = .ok l ∧
    s'.engine = { s.engine with library := l, generation := s.engine.generation + 1 } ∧
    s'.cache.entries = []

/-- Loading the templates again does all of it or nothing. -/
structure ReloadsWhole (s : Session) (disk : Disk) : Prop where
  reload_error : ∀ e, (s.reload disk).result = .error e → (s.reload disk).session = s
  reload_ok : (s.reload disk).result = .ok () → s.HoldsFresh disk (s.reload disk).session
  refresh_error : ∀ e, (s.refresh disk).result = .error e → (s.refresh disk).session = s
  refresh_unneeded : (s.refresh disk).result = .ok false → (s.refresh disk).session = s
  /-- What it tells is whether the template files had changed. -/
  refresh_isStale : ∀ changed, (s.refresh disk).result = .ok changed →
    s.isStale disk = .ok changed
  /-- It fails because that cannot be told, or because they had and loading them fails. -/
  refresh_fault : ∀ e, (s.refresh disk).result = .error e → s.isStale disk = .error e ∨
    s.isStale disk = .ok true ∧ (s.reload disk).result = .error e
  refresh_ok : (s.refresh disk).result = .ok true → s.HoldsFresh disk (s.refresh disk).session
  /-- There is nothing left to do then. -/
  refresh_again : ∀ changed, (s.refresh disk).result = .ok changed →
    ((s.refresh disk).session.refresh disk).result = .ok false

variable (s : Session) (disk : Disk)

/-- Loading again if needed fails and changes nothing, is not needed, or does load again. -/
lemma refresh_cases :
    (∃ e, (s.isStale disk = .error e ∨
          s.isStale disk = .ok true ∧ (s.reload disk).result = .error e) ∧
        (s.refresh disk).result = .error e ∧ (s.refresh disk).session = s) ∨
      (s.isStale disk = .ok false ∧ (s.refresh disk).result = .ok false ∧
        (s.refresh disk).session = s) ∨
      (s.isStale disk = .ok true ∧ (s.refresh disk).result = .ok true ∧
        (s.reload disk).result = .ok () ∧
        (s.refresh disk).session = (s.reload disk).session) := by
  rw [refresh]
  split
  · rename_i e hstale
    exact .inl ⟨e, .inl hstale, rfl, rfl⟩
  · rename_i hstale
    exact .inr (.inl ⟨hstale, rfl, rfl⟩)
  · rename_i hstale
    rcases s.reload_result disk with ⟨⟨e, herror⟩, hsession⟩ | ⟨l, -, hresult, -⟩
    · exact .inl ⟨e, .inr ⟨hstale, herror⟩, by simp only [herror]; rfl, hsession⟩
    · exact .inr (.inr ⟨hstale, by simp only [hresult]; rfl, hresult, rfl⟩)

variable {s disk}

lemma holdsFresh_of_reload (h : (s.reload disk).result = .ok ()) :
    s.HoldsFresh disk (s.reload disk).session := by
  rcases s.reload_result disk with ⟨⟨e, herror⟩, -⟩ | ⟨l, hload, -, hsession⟩
  · cases herror.symm.trans h
  · rw [hsession]
    exact ⟨l, hload, rfl, rfl⟩

lemma refresh_unchanged (h : (s.refresh disk).result ≠ .ok true) :
    (s.refresh disk).session = s := by
  rcases s.refresh_cases disk with ⟨-, -, -, hsession⟩ | ⟨-, -, hsession⟩ | ⟨-, hresult, -⟩
  · exact hsession
  · exact hsession
  · exact absurd hresult h

lemma refresh_of_isStale (h : s.isStale disk = .ok false) :
    (s.refresh disk).result = .ok false := by
  rw [refresh, h]

/-- What is fresh need not be loaded again. -/
lemma HoldsFresh.isStale {s' : Session} (h : s.HoldsFresh disk s') :
    s'.isStale disk = .ok false := by
  obtain ⟨l, hload, hengine, -⟩ := h
  rw [Session.isStale, hengine]
  exact Library.isStale_of_load hload

variable (s disk)

lemma reloadsWhole : s.ReloadsWhole disk where
  reload_error e h := by
    rcases s.reload_result disk with ⟨-, hsession⟩ | ⟨l, -, hresult, -⟩
    · exact hsession
    · cases hresult.symm.trans h
  reload_ok := holdsFresh_of_reload
  refresh_error e h := refresh_unchanged (by simp [h])
  refresh_unneeded h := refresh_unchanged (by simp [h])
  refresh_isStale changed h := by
    rcases s.refresh_cases disk with
      ⟨e, -, herror, -⟩ | ⟨hstale, hresult, -⟩ | ⟨hstale, hresult, -⟩
    · cases herror.symm.trans h
    · rwa [Except.ok.inj (h.symm.trans hresult)]
    · rwa [Except.ok.inj (h.symm.trans hresult)]
  refresh_fault e h := by
    rcases s.refresh_cases disk with ⟨e', hfault, herror, -⟩ | ⟨-, hresult, -⟩ | ⟨-, hresult, -⟩
    · rwa [Except.error.inj (h.symm.trans herror)]
    · cases hresult.symm.trans h
    · cases hresult.symm.trans h
  refresh_ok h := by
    rcases s.refresh_cases disk with
      ⟨e, -, herror, -⟩ | ⟨-, hresult, -⟩ | ⟨-, -, hreload, hsession⟩
    · cases herror.symm.trans h
    · cases hresult.symm.trans h
    · rw [hsession]
      exact holdsFresh_of_reload hreload
  refresh_again changed h := by
    rcases s.refresh_cases disk with
      ⟨e, -, herror, -⟩ | ⟨hstale, -, hsession⟩ | ⟨-, -, hreload, hsession⟩
    · cases herror.symm.trans h
    · rw [hsession]
      exact refresh_of_isStale hstale
    · rw [hsession]
      exact refresh_of_isStale (holdsFresh_of_reload hreload).isStale

/-- **Templates are loaded again as a whole or not at all, and a change is noticed exactly if it
concerns them.**  After any changes of the disk from which an engine has loaded its templates, it is
outdated if and only if the stamps of the template files are not the same. -/
theorem reload_whole_and_isStale_exact (s : Session) :
    (∀ disk, s.ReloadsWhole disk) ∧
      ∀ (loaded : Disk) (root : String) (config : Config) (changes : List FileChange),
        loaded.Orderly → Library.load loaded root config = .ok s.engine.library →
        (loaded.after changes).isDirectory root →
          ∃ discovery stale, Discovery.ofConfig config = .ok discovery ∧
            s.isStale (loaded.after changes) = .ok stale ∧
            (stale = false ↔ discovery.stampsBelow (loaded.after changes) root =
              discovery.stampsBelow loaded root) :=
  ⟨s.reloadsWhole, fun _ _ _ changes hloaded hload hroot =>
    Library.isStale_iff_stamps hloaded (hloaded.after changes) hload hroot⟩

end Session

end Reloading

namespace Session

/-! ### A directory with one template -/

attribute [local instance] Objections.terse

open Fleet (bugDisk)

/-- A file that is no template comes in. -/
def noteChanges : List FileChange :=
  [.write "tpl/notes/new.txt" "text" 7, .touch "tpl/notes/new.txt" 8]

/-- The template gets into another directory. -/
def moveChanges : List FileChange := [.rename "tpl/bug.yaml" "tpl/old/bug.yaml"]

lemma orderly_bugDisk (body : String) (written : Int) : (bugDisk body written).Orderly := by
  have htpl : Location.PlainName "tpl" := ⟨by decide, by decide, by decide, by simp⟩
  have hbug : Location.PlainName "bug.yaml" := ⟨by decide, by decide, by decide, by simp⟩
  exact ⟨DiskEntry.orderly_singleton htpl (DiskEntry.orderly_singleton hbug (.file _ _)), nofun⟩

/-- The library of the directory is outdated by the second changes only. -/
lemma exists_bugLibrary :
    ∃ l, Library.load (bugDisk "before" 0) "tpl" {} = .ok l ∧
      l.isStale ((bugDisk "before" 0).after noteChanges) = .ok false ∧
      l.isStale ((bugDisk "before" 0).after moveChanges) = .ok true := by
  have hany : (Library.load (bugDisk "before" 0) "tpl" {}).toOption.any fun l =>
      (l.isStale ((bugDisk "before" 0).after noteChanges)).toOption = some false &&
        (l.isStale ((bugDisk "before" 0).after moveChanges)).toOption = some true := by
    decide +kernel
  have hok {x : Except Error Bool} {b : Bool} (h : x.toOption = some b) : x = .ok b := by
    cases x <;> cases h
    rfl
  cases hload : Library.load (bugDisk "before" 0) "tpl" {} with
  | error e => simp [hload, Except.toOption] at hany
  | ok l =>
      rw [hload] at hany
      obtain ⟨hnote, hmove⟩ := Bool.and_eq_true_iff.mp hany
      exact ⟨l, rfl, hok (of_decide_eq_true hnote), hok (of_decide_eq_true hmove)⟩

theorem reload_whole_and_isStale_exact_bug :
    (bugDisk "before" 0).Orderly ∧
      ∃ engine, Engine.loadWith (bugDisk "before" 0) "tpl" {} = .ok engine ∧
        ∃ discovery, Discovery.ofConfig {} = .ok discovery ∧
          discovery.stampsBelow ((bugDisk "before" 0).after noteChanges) "tpl" =
            discovery.stampsBelow (bugDisk "before" 0) "tpl" ∧
          discovery.stampsBelow ((bugDisk "before" 0).after moveChanges) "tpl" ≠
            discovery.stampsBelow (bugDisk "before" 0) "tpl" := by
  obtain ⟨l, hload, hnote, hmove⟩ := exists_bugLibrary
  let engine : Engine := { Engine.ofLibrary l {} with root := "tpl" }
  have hexact := (reload_whole_and_isStale_exact ⟨engine, .empty 60000⟩).2 (bugDisk "before" 0)
    "tpl" {}
  obtain ⟨discovery, stale, hdiscovery, hstale, hsame⟩ :=
    hexact noteChanges (orderly_bugDisk "before" 0) hload (by decide +kernel)
  obtain ⟨discovery', stale', hdiscovery', hstale', hother⟩ :=
    hexact moveChanges (orderly_bugDisk "before" 0) hload (by decide +kernel)
  cases hdiscovery.symm.trans hdiscovery'
  cases hstale.symm.trans hnote
  cases hstale'.symm.trans hmove
  refine ⟨orderly_bugDisk "before" 0, engine, ?_, discovery, hdiscovery, hsame.mp rfl,
    fun heq => ?_⟩
  · rw [Engine.loadWith, hload]
  · cases hother.mpr heq

end Session

end Docket
