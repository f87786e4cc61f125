import Audience.Data.Value
import Audience.Results.Policy

/-!
The cache of results. Entries are found by key in a map; a queue holds the keys from the oldest insertion to
the newest and decides which entry leaves when the cache is full. Reading moves nothing; storing under a key
that is held makes it the newest. Expired entries count as absent when they are read and stay until they are
cleaned, stored over or evicted. Times are in milliseconds and do not go back.
-/

namespace Audience

/-- A stored result and the time when it was stored. -/
structure ResultCache.Entry where
  rows : List Row
  storedAt : Nat
deriving DecidableEq

/-- The cache of results. -/
structure ResultCache where
  capacity : Nat
  timeToLive : Nat
  entries : NameMap ResultCache.Entry
  /-- The keys from the oldest insertion to the newest. -/
  order : List String
  hits : Nat
  misses : Nat
deriving DecidableEq

/-- The figures of a cache. -/
structure CacheStats where
  size : Nat
  maxSize : Nat
  hits : Nat
  misses : Nat
  hitRate : String
  timeToLive : Nat
deriving DecidableEq, Repr

namespace ResultCache

/-- How many entries a cache holds when nothing is said. -/
def standardCapacity : Nat := 100

/-- How many milliseconds an entry lives when nothing is said: an hour. -/
def standardTimeToLive : Nat := 60 * 60 * 1000

/-- An empty cache. It holds at least one entry. -/
def new (maxEntries timeToLive : Nat) : ResultCache where
  capacity := max maxEntries 1
  timeToLive := timeToLive
  entries := ∅
  order := []
  hits := 0
  misses := 0

/-- The limits of the cache. -/
def policy (c : ResultCache) : RetentionPolicy := .bounded c.capacity c.timeToLive

/-- How many entries the cache holds, expired ones included. -/
def size (c : ResultCache) : Nat := c.entries.size

/-- The entry is expired at a time. -/
def expired (c : ResultCache) (now : Nat) (e : Entry) : Bool := c.policy.isExpired (now - e.storedAt)

/-- The rows under a key, when they are held and not expired. -/
def find? (c : ResultCache) (key : String) (now : Nat) : Option (List Row) :=
  match c.entries.get? key with
  | some e => if c.expired now e then none else some e.rows
  | none => none

/-- Reads a key and counts the hit or the miss. -/
def get (c : ResultCache) (key : String) (now : Nat) : Option (List Row) × ResultCache :=
  match c.find? key now with
  | some rows => (some rows, { c with hits := c.hits + 1 })
  | none => (none, { c with misses := c.misses + 1 })

/-- Takes the entry under a key out of the map and the queue. -/
def remove (c : ResultCache) (key : String) : ResultCache :=
  if c.entries.contains key then { c with entries := c.entries.erase key, order := c.order.erase key }
  else c

/-- Takes the oldest entry out. -/
def evictOldest (c : ResultCache) : ResultCache :=
  match c.order with
  | [] => c
  | oldest :: rest => { c with entries := c.entries.erase oldest, order := rest }

/-- Makes room for a key: its own entry goes, or else the oldest one when the cache is full. -/
def makeRoom (c : ResultCache) (key : String) : ResultCache :=
  if c.entries.contains key then c.remove key
  else if c.policy.isFull c.size then c.evictOldest
  else c

/-- Stores rows under a key as the newest entry. -/
def put (c : ResultCache) (key : String) (rows : List Row) (now : Nat) : ResultCache :=
  let c := c.makeRoom key
  { c with entries := c.entries.insert key ⟨rows, now⟩, order := c.order ++ [key] }

/-- Takes out the entry under a key and says whether there was one. -/
def delete (c : ResultCache) (key : String) : Bool × ResultCache :=
  (c.entries.contains key, c.remove key)

/-- Takes out every entry and sets the counters back. -/
def clear (c : ResultCache) : ResultCache :=
  { c with entries := ∅, order := [], hits := 0, misses := 0 }

/-- Takes out the expired entries and says how many there were. The counters stay. -/
def cleanExpired (c : ResultCache) (now : Nat) : Nat × ResultCache :=
  let kept := c.entries.filter fun _ e => !c.expired now e
  (c.size - kept.size, { c with entries := kept, order := c.order.filter kept.contains })

/-- The share of hits in percent with two places. -/
def hitRate (hits misses : Nat) : String :=
  if hits + misses = 0 then "0.00"
  else ((Float64.nearest false hits (hits + misses)).times 100).fixedText 2

/-- The figures of the cache. The time to live is reported in 64 bits. -/
def stats (c : ResultCache) : CacheStats where
  size := c.size
  maxSize := c.capacity
  hits := c.hits
  misses := c.misses
  hitRate := hitRate c.hits c.misses
  timeToLive := c.timeToLive % UInt64.size

end ResultCache

end Audience
