/-!
# Cache

A cache keeps results for a limited time. Instants and durations are whole milliseconds; an instant
counts from any fixed beginning.

An entry is dead once its age has reached its lifetime. Dead entries are never handed out. They
leave the cache when they are asked for, before a new result is put in, and by `Cache.purge`.
-/

namespace Docket

/-- A result with the time it is good for. -/
structure CacheEntry (α : Type) where
  output : α
  created : Int
  lifetime : Int

namespace CacheEntry

/-- Whether the age of an entry has reached its lifetime. -/
def isExpired {α : Type} (e : CacheEntry α) (now : Int) : Bool := e.lifetime ≤ now - e.created

end CacheEntry

/-- Results by key. -/
structure Cache (α : Type) where
  /-- The lifetime of results that are put in. -/
  lifetime : Int
  /-- The entries, each key once. -/
  entries : List (String × CacheEntry α)

namespace Cache

variable {α : Type}

/-- An empty cache whose results live for a number of milliseconds. -/
def empty (lifetime : Int) : Cache α := ⟨lifetime, []⟩

/-- The longest lifetime that can be told, in milliseconds. -/
def longest : Nat := 9223372036854775807

/-- An empty cache whose results live for a number of seconds, or for as long as can be told. -/
def withSeconds (seconds : Nat) : Cache α :=
  empty (if seconds * 1000 ≤ longest then seconds * 1000 else longest)

/-- The lifetime in whole seconds. -/
def seconds (c : Cache α) : Int := c.lifetime / 1000

/-- How many entries there are, dead ones included. -/
def size (c : Cache α) : Nat := c.entries.length

/-- Whether there are no entries. -/
def isEmpty (c : Cache α) : Bool := c.size == 0

/-- How many entries are dead. -/
def expired (c : Cache α) (now : Int) : Nat := c.entries.countP fun (_, e) => e.isExpired now

/-- The entry of a key, dead or alive. -/
def find? (c : Cache α) (key : String) : Option (CacheEntry α) := c.entries.lookup key

/-- Removes a key. -/
def erase (c : Cache α) (key : String) : Cache α :=
  { c with entries := c.entries.filter fun (k, _) => k ≠ key }

/-- Sets the entry of a key. -/
def insert (c : Cache α) (key : String) (e : CacheEntry α) : Cache α :=
  { c with entries := (key, e) :: (c.erase key).entries }

/-- Removes all dead entries. -/
def purged (c : Cache α) (now : Int) : Cache α :=
  { c with entries := c.entries.filter fun (_, e) => !e.isExpired now }

/-- Removes all dead entries and tells how many there were. -/
def purge (c : Cache α) (now : Int) : Nat × Cache α :=
  (c.size - (c.purged now).size, c.purged now)

/-- The living result of a key. A dead entry is removed. -/
def get (c : Cache α) (now : Int) (key : String) : Option α × Cache α :=
  match c.find? key with
  | some e => if e.isExpired now then (none, c.erase key) else (some e.output, c)
  | none => (none, c)

/-- Puts a new result in, after all dead entries have left. -/
def put (c : Cache α) (now : Int) (key : String) (output : α) : Cache α :=
  (c.purged now).insert key ⟨output, now, c.lifetime⟩

/-- Removes everything. -/
def cleared (c : Cache α) : Cache α := { c with entries := [] }

end Cache

end Docket
