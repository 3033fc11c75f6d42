import Docket.Cache.Basic
import Docket.Proofs.Entries.Lookup
import Mathlib.Data.List.Induction
import Mathlib.Data.List.Nodup

/-!
# Eviction cannot be noticed

Dead entries leave a cache when they are asked for, before something is put in, and when the cache
is purged.  Whoever asks cannot tell: a cache answers like a record that loses nothing.

## The record

`Cache.lastWritten` reads that record off the operations themselves: what was last written to a key
since everything was last removed.  The record hands a result out as long as `CacheEntry.living?`
says, be the entry made in the past or in the future.

## The clock

An operation may read the clock twice.  Looking up reads it again before a dead entry leaves, and
putting in reads it once for the entries that leave and once for the one that comes.
`Cache.getBetween` and `Cache.putBetween` have a reading for each; with one reading for both they
are `Cache.get` and `Cache.put` (`Cache.getBetween_self`, `Cache.putBetween_self`).  All that is
asked of the clock is that its readings never decrease, so that what is dead stays dead.

## The invariant

`Cache.Abridges` says that a cache holds what the record holds, less some entries that are dead.
One operation keeps it (`Cache.step_abridges`), so a run of any length does
(`Cache.run_abridges`), and a cache that abridges the record answers like it
(`Cache.Abridges.fst_getBetween`).
-/

namespace Docket

variable {α : Type}

/-! ## Entries and time -/

namespace CacheEntry

/-- The result of an entry whose age is below its lifetime. -/
def living? (e : CacheEntry α) (now : Int) : Option α :=
  if now - e.created < e.lifetime then some e.output else none

lemma living?_of_isExpired {e : CacheEntry α} {now : Int} (h : e.isExpired now) :
    e.living? now = none := by
  have hage : e.lifetime ≤ now - e.created := of_decide_eq_true h
  apply if_neg
  omega

lemma living?_of_not_isExpired {e : CacheEntry α} {now : Int} (h : e.isExpired now = false) :
    e.living? now = some e.output := by
  have hage : ¬ e.lifetime ≤ now - e.created := of_decide_eq_false h
  apply if_pos
  omega

/-- What is dead stays dead. -/
lemma isExpired_of_le {e : CacheEntry α} {now later : Int} (hle : now ≤ later)
    (h : e.isExpired now) : e.isExpired later := by
  have hage : e.lifetime ≤ now - e.created := of_decide_eq_true h
  apply decide_eq_true
  omega

end CacheEntry

namespace Cache

/-! ## Operations -/

/-- The living result of a key.  An entry that is dead at the first reading of the clock is looked
at again, and removed if it is dead at the second. -/
def getBetween (c : Cache α) (first second : Int) (key : String) : Option α × Cache α :=
  match c.find? key with
  | some e => if e.isExpired first then c.get second key else (some e.output, c)
  | none => (none, c)

/-- Puts a result in that is made at one reading of the clock, after the entries that were dead at
an earlier one have left. -/
def putBetween (c : Cache α) (swept made : Int) (key : String) (output : α) : Cache α :=
  (c.purged swept).insert key ⟨output, made, c.lifetime⟩

lemma getBetween_self (c : Cache α) (now : Int) (key : String) :
    c.getBetween now now key = c.get now key := by
  rw [getBetween, get]
  cases c.find? key with
  | none => rfl
  | some e => by_cases h : e.isExpired now <;> simp [h]

/-- Looking up leaves a cache as it is, or removes an entry that is dead at the first reading. -/
lemma snd_getBetween (c : Cache α) (first second : Int) (key : String) :
    (c.getBetween first second key).2 = c ∨
      (c.getBetween first second key).2 = c.erase key ∧
        ∃ e, c.find? key = some e ∧ e.isExpired first := by
  rw [getBetween, get]
  cases he : c.find? key with
  | none => exact .inl rfl
  | some e =>
      by_cases hfirst : e.isExpired first
      · by_cases hsecond : e.isExpired second
        · exact .inr ⟨by simp [hfirst, hsecond], e, rfl, hfirst⟩
        · exact .inl (by simp [hfirst, hsecond])
      · exact .inl (by simp [hfirst])

lemma putBetween_self (c : Cache α) (now : Int) (key : String) (output : α) :
    c.putBetween now now key output = c.put now key output := rfl

/-- What can be asked of a cache, with the readings of the clock that it takes. -/
inductive Operation (α : Type) where
  | get (first second : Int) (key : String)
  | put (swept made : Int) (key : String) (output : α)
  | insert (key : String) (e : CacheEntry α)
  | clear
  | purge (now : Int)

namespace Operation

/-- The readings of the clock that an operation takes, in order. -/
def readings : Operation α → List Int
  | get first second _ => [first, second]
  | put swept made _ _ => [swept, made]
  | insert _ _ | clear => []
  | purge now => [now]

/-- Whether an operation removes everything. -/
def clears : Operation α → Bool
  | clear => true
  | _ => false

/-- The entry that an operation writes to a key of a cache with a given lifetime. -/
def written? (lifetime : Int) (key : String) : Operation α → Option (CacheEntry α)
  | put _ made k output => if key = k then some ⟨output, made, lifetime⟩ else none
  | insert k e => if key = k then some e else none
  | get _ _ _ | clear | purge _ => none

end Operation

/-- A cache after one operation. -/
def step (c : Cache α) : Operation α → Cache α
  | .get first second key => (c.getBetween first second key).2
  | .put swept made key output => c.putBetween swept made key output
  | .insert key e => c.insert key e
  | .clear => c.cleared
  | .purge now => (c.purge now).2

/-- A cache after a list of operations. -/
def run (c : Cache α) (history : List (Operation α)) : Cache α := history.foldl step c

/-- The entry that was last written to a key since everything was last removed, in the history of a
cache with a given lifetime. -/
def lastWritten (lifetime : Int) (history : List (Operation α)) (key : String) :
    Option (CacheEntry α) :=
  (history.reverse.takeWhile fun op => !op.clears).findSome? (·.written? lifetime key)

lemma run_concat (c : Cache α) (history : List (Operation α)) (op : Operation α) :
    c.run (history ++ [op]) = (c.run history).step op := by
  rw [run, List.foldl_concat]
  rfl

lemma lastWritten_concat (lifetime : Int) (history : List (Operation α)) (op : Operation α)
    (key : String) : lastWritten lifetime (history ++ [op]) key =
      if op.clears then none
      else (op.written? lifetime key).or (lastWritten lifetime history key) := by
  rw [lastWritten, lastWritten, List.reverse_concat, List.takeWhile_cons]
  cases op.clears with
  | true => rfl
  | false =>
      simp only [Bool.not_false, if_true, Bool.false_eq_true, if_false, List.findSome?_cons]
      cases op.written? lifetime key <;> rfl

/-! ## Looking up -/

/-- No key comes twice. -/
def Distinct (c : Cache α) : Prop := (c.entries.map Prod.fst).Nodup

variable {c c' : Cache α} {key : String} {e : CacheEntry α} {now : Int}

@[simp] lemma find?_erase (c : Cache α) (key k : String) :
    (c.erase key).find? k = if k = key then none else c.find? k := by
  have hkeys := lookup_filter_keys (l := c.entries) (k := k) fun x => decide (x ≠ key)
  simpa [find?, erase] using hkeys

@[simp] lemma find?_insert (k : String) :
    (c.insert key e).find? k = if k = key then some e else c.find? k := by
  have herase := c.find?_erase key k
  by_cases hk : k = key
  · simp [find?, insert, hk]
  · have hbeq : (k == key) = false := beq_eq_false_iff_ne.mpr hk
    simpa [find?, insert, List.lookup_cons, hbeq, hk] using herase

lemma find?_purged (h : c.Distinct) (k : String) :
    (c.purged now).find? k = (c.find? k).filter fun e => !e.isExpired now :=
  lookup_filter_of_nodup h _

/-- A sublist of distinct keys is distinct. -/
lemma Distinct.filter (h : c.Distinct) (p : String × CacheEntry α → Bool) :
    Distinct { c with entries := c.entries.filter p } :=
  List.Nodup.sublist (List.filter_sublist.map _) h

lemma Distinct.insert (h : c.Distinct) : (c.insert key e).Distinct := by
  refine List.nodup_cons.mpr ⟨?_, h.filter _⟩
  simp [erase]

lemma Distinct.step (h : c.Distinct) (op : Operation α) : (c.step op).Distinct := by
  cases op with
  | get first second key =>
      rw [Cache.step]
      rcases c.snd_getBetween first second key with hsame | ⟨herase, -⟩
      · rwa [hsame]
      · rw [herase]
        exact h.filter _
  | put swept made key output => exact (h.filter _).insert
  | insert key e => exact h.insert
  | clear => exact List.nodup_nil
  | purge now => exact h.filter _

lemma lifetime_step (c : Cache α) (op : Operation α) : (c.step op).lifetime = c.lifetime := by
  cases op with
  | get first second key =>
      rw [step]
      rcases c.snd_getBetween first second key with hsame | ⟨herase, -⟩
      · rw [hsame]
      · rw [herase]
        rfl
  | put swept made key output => rfl
  | insert key e => rfl
  | clear => rfl
  | purge now => rfl

/-! ## Caches that have lost dead entries -/

/-- A cache holds what a record holds, less some entries that are dead at an instant. -/
def Abridges (c : Cache α) (record : String → Option (CacheEntry α)) (now : Int) : Prop :=
  ∀ key, c.find? key = record key ∨ c.find? key = none ∧ ∀ e ∈ record key, e.isExpired now

variable {record : String → Option (CacheEntry α)}

/-- An entry that lives has not been lost. -/
lemma Abridges.find? (h : c.Abridges record now) (hrecord : record key = some e)
    (halive : e.isExpired now = false) : c.find? key = some e := by
  rcases h key with heq | ⟨-, hdead⟩
  · exact heq.trans hrecord
  · rw [hdead e hrecord] at halive
    cases halive

lemma Abridges.later (h : c.Abridges record now) {later : Int} (hle : now ≤ later) :
    c.Abridges record later :=
  fun key => (h key).imp_right fun ⟨hnone, hdead⟩ =>
    ⟨hnone, fun e he => CacheEntry.isExpired_of_le hle (hdead e he)⟩

/-- Losing dead entries twice is losing dead entries. -/
lemma Abridges.trans (h : c'.Abridges c.find? now) (hc : c.Abridges record now) :
    c'.Abridges record now := by
  intro key
  rcases h key with heq | ⟨hnone, hdead⟩
  · rw [heq]
    exact hc key
  · refine .inr ⟨hnone, ?_⟩
    rcases hc key with heq | ⟨-, hrecord⟩
    · rwa [heq] at hdead
    · exact hrecord

lemma Abridges.insert (h : c.Abridges record now) (key : String) (e : CacheEntry α) :
    (c.insert key e).Abridges (fun k => if k = key then some e else record k) now := by
  intro k
  rw [find?_insert]
  by_cases hk : k = key
  · simp [hk]
  · simpa [hk] using h k

/-- Looking up removes nothing but an entry that is dead at the first reading. -/
lemma getBetween_abridges (c : Cache α) (first second : Int) (key : String) :
    (c.getBetween first second key).2.Abridges c.find? first := by
  intro k
  rcases c.snd_getBetween first second key with hsame | ⟨herase, e, he, hdead⟩
  · rw [hsame]
    exact .inl rfl
  · rw [herase, find?_erase]
    by_cases hk : k = key
    · subst hk
      simpa [he] using hdead
    · simp [hk]

lemma purged_abridges (h : c.Distinct) (now : Int) : (c.purged now).Abridges c.find? now := by
  intro k
  rw [find?_purged h]
  cases c.find? k with
  | none => exact .inl rfl
  | some e =>
      by_cases hdead : e.isExpired now
      · simp [hdead]
      · simp [hdead]

/-- A cache that has lost dead entries only answers like the record. -/
lemma Abridges.fst_getBetween {first second : Int} (h : c.Abridges record first)
    (hle : first ≤ second) (key : String) :
    (c.getBetween first second key).1 = (record key).bind (·.living? first) := by
  rw [getBetween]
  rcases h key with heq | ⟨hnone, hdead⟩
  · rw [← heq]
    cases he : c.find? key with
    | none => rfl
    | some e =>
        by_cases hfirst : e.isExpired first
        · have hsecond := CacheEntry.isExpired_of_le hle hfirst
          simp [get, he, hfirst, hsecond, CacheEntry.living?_of_isExpired hfirst]
        · rw [Bool.not_eq_true] at hfirst
          simp [hfirst, CacheEntry.living?_of_not_isExpired hfirst]
  · rw [hnone]
    cases he : record key with
    | none => rfl
    | some e => exact (CacheEntry.living?_of_isExpired (hdead e he)).symm

/-! ## Runs -/

/-- One operation loses dead entries at most, apart from what it is meant to change. -/
lemma step_abridges (hdistinct : c.Distinct) {later : Int} (h : c.Abridges record later)
    (op : Operation α) (hop : ∀ t ∈ op.readings, t ≤ later) :
    (c.step op).Abridges
      (fun key => if op.clears then none else (op.written? c.lifetime key).or (record key))
      later := by
  cases op with
  | get first second key =>
      have hfirst : first ≤ later := hop first List.mem_cons_self
      exact ((getBetween_abridges c first second key).later hfirst).trans h
  | put swept made key output =>
      have hswept : swept ≤ later := hop swept List.mem_cons_self
      have hpurged := ((purged_abridges hdistinct swept).later hswept).trans h
      intro k
      have hinsert := hpurged.insert key ⟨output, made, c.lifetime⟩ k
      by_cases hk : k = key
      · simp [step, putBetween, Operation.clears, Operation.written?, hk]
      · simpa [step, putBetween, Operation.clears, Operation.written?, hk] using hinsert
  | insert key e =>
      intro k
      have hinsert := h.insert key e k
      by_cases hk : k = key
      · simp [step, Operation.clears, Operation.written?, hk]
      · simpa [step, Operation.clears, Operation.written?, hk] using hinsert
  | clear => exact fun _ => .inl rfl
  | purge now =>
      have hnow : now ≤ later := hop now List.mem_cons_self
      exact ((purged_abridges hdistinct now).later hnow).trans h

lemma distinct_run (lifetime : Int) (history : List (Operation α)) :
    ((empty lifetime).run history).Distinct ∧
      ((empty lifetime).run history).lifetime = lifetime := by
  induction history using List.reverseRecOn with
  | nil => exact ⟨List.nodup_nil, rfl⟩
  | append_singleton history op ih =>
      rw [run_concat, lifetime_step]
      exact ⟨ih.1.step op, ih.2⟩

/-- At an instant that no reading is past, a cache has lost dead entries only. -/
lemma run_abridges (lifetime : Int) (history : List (Operation α)) {later : Int}
    (hpast : ∀ t ∈ history.flatMap Operation.readings, t ≤ later) :
    ((empty lifetime).run history).Abridges (lastWritten lifetime history) later := by
  induction history using List.reverseRecOn with
  | nil => exact fun _ => .inl rfl
  | append_singleton history op ih =>
      rw [List.flatMap_append, List.flatMap_singleton] at hpast
      have hbefore := ih fun t ht => hpast t (List.mem_append_left _ ht)
      obtain ⟨hdistinct, hlifetime⟩ := distinct_run lifetime history
      have hstep := step_abridges hdistinct hbefore op fun t ht =>
        hpast t (List.mem_append_right _ ht)
      rw [hlifetime] at hstep
      rw [run_concat]
      intro key
      rw [lastWritten_concat]
      exact hstep key

/-- An entry stays as long as it lives, unless everything is removed or its key is written. -/
lemma find?_step (hdistinct : c.Distinct) (he : c.find? key = some e) {op : Operation α}
    (hclears : op.clears = false) (hwritten : op.written? c.lifetime key = none)
    (halive : ∀ t ∈ op.readings.head?, e.isExpired t = false) :
    (c.step op).find? key = some e := by
  cases op with
  | get first second k =>
      exact (getBetween_abridges c first second k).find? he (halive first rfl)
  | put swept made k output =>
      have hk : key ≠ k := by
        intro heq
        simp [Operation.written?, heq] at hwritten
      have hpurged := (purged_abridges hdistinct swept).find? he (halive swept rfl)
      simpa [step, putBetween, hk] using hpurged
  | insert k e' =>
      have hk : key ≠ k := by
        intro heq
        simp [Operation.written?, heq] at hwritten
      simpa [step, hk] using he
  | clear => cases hclears
  | purge now => exact (purged_abridges hdistinct now).find? he (halive now rfl)

/-! ## Purging -/

lemma fst_purge (c : Cache α) (now : Int) : (c.purge now).1 = c.expired now := by
  have hcount := List.length_eq_countP_add_countP (l := c.entries) fun x => x.2.isExpired now
  have hpurged : (c.purged now).size = c.entries.countP fun x => !x.2.isExpired now := by
    rw [size, purged, List.countP_eq_length_filter]
  have hdead : c.expired now = c.entries.countP fun x => x.2.isExpired now := rfl
  have hsame : c.entries.countP (fun x => decide (¬ x.2.isExpired now = true)) =
      c.entries.countP fun x => !x.2.isExpired now := by simp
  rw [purge, hpurged, hdead, size]
  omega

lemma expired_purged (c : Cache α) (now : Int) : (c.purged now).expired now = 0 := by
  rw [expired, List.countP_eq_zero]
  intro x hx
  have hx' := (List.mem_filter.mp hx).2
  simpa using hx'

/-! ## A cache against its record -/

/-- **Eviction cannot be noticed.**  Let the readings of the clock never decrease in a list of
operations that ends with `op`.  If `op` looks a key up, it finds what was last written to the key
since everything was last removed, provided that this is younger than its own lifetime.  Purging
tells as many entries as were dead at that instant, and leaves none.  And `op` keeps every entry
that is alive, unless it removes everything or writes to the key. -/
theorem run_eviction_unnoticed (lifetime : Int) (history : List (Operation α)) (op : Operation α)
    (hclock : ((history ++ [op]).flatMap Operation.readings).Pairwise (· ≤ ·)) :
    let c := (empty lifetime).run history
    (∀ first second key, op = .get first second key →
        (c.getBetween first second key).1 =
          (lastWritten lifetime history key).bind (·.living? first)) ∧
      (∀ now, (c.purge now).1 = c.expired now ∧ (c.purge now).2.expired now = 0) ∧
      (∀ key e, c.find? key = some e → op.clears = false → op.written? lifetime key = none →
        (∀ t ∈ op.readings.head?, e.isExpired t = false) → (c.step op).find? key = some e) := by
  intro c
  obtain ⟨hdistinct, hlifetime⟩ := distinct_run lifetime history
  refine ⟨?_, ?_, ?_⟩
  · rintro first second key rfl
    rw [List.flatMap_append, List.flatMap_singleton] at hclock
    obtain ⟨-, hreadings, hpast⟩ := List.pairwise_append.mp hclock
    have hle : first ≤ second := (List.pairwise_cons.mp hreadings).1 second List.mem_cons_self
    have habridges : c.Abridges (lastWritten lifetime history) first :=
      run_abridges lifetime history fun t ht => hpast t ht first List.mem_cons_self
    exact habridges.fst_getBetween hle key
  · intro now
    exact ⟨c.fst_purge now, c.expired_purged now⟩
  · intro key e he hclears hwritten halive
    rw [← hlifetime] at hwritten
    exact find?_step hdistinct he hclears hwritten halive

/-- Two writes to one key, an entry made long ago, one made in the future, and a purge. -/
def noteHistory : List (Operation String) :=
  [.put 0 0 "note" "first", .insert "old" ⟨"old", -100, 50⟩, .insert "early" ⟨"early", 20, 5⟩,
    .put 4 5 "note" "second", .get 14 14 "note", .purge 14]

/-- The second note reaches its lifetime between two looks at it: the record still has it, and
neither the record nor the cache hands it out. -/
theorem run_eviction_unnoticed_note :
    ((noteHistory ++ [Operation.get 15 16 "note"]).flatMap Operation.readings).Pairwise
        (· ≤ ·) ∧
      lastWritten 10 noteHistory "note" = some ⟨"second", 5, 10⟩ ∧
      (((empty 10).run noteHistory).getBetween 15 16 "note").1 =
        (lastWritten 10 noteHistory "note").bind (·.living? 15) ∧
      (((empty 10).run noteHistory).getBetween 15 16 "note").1 = none := by
  have hclock : ((noteHistory ++ [Operation.get 15 16 "note"]).flatMap
      Operation.readings).Pairwise (· ≤ ·) := by decide
  have hanswer :=
    (run_eviction_unnoticed 10 noteHistory (.get 15 16 "note") hclock).1 15 16 "note" rfl
  exact ⟨hclock, rfl, hanswer, hanswer.trans rfl⟩

end Cache

end Docket
