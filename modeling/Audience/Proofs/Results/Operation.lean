import Audience.Proofs.Run
import Audience.Results.Cache

/-!
The operations of a result cache as events. A cache answers each operation at a time and goes on with what is
left; a run of it takes operations with times that do not go back. Beside the step stand the facts that the
runs rest on: what each operation does to the entry under a key.
-/

namespace Audience

/-- What is asked of a cache of results. -/
inductive CacheOperation where
  | put (key : String) (rows : List Row)
  | get (key : String)
  | delete (key : String)
  | clear
  | clean
  | size
  | stats
deriving DecidableEq

/-- What a cache of results answers. -/
inductive CacheAnswer where
  | done
  | found (rows : Option (List Row))
  | deleted (existed : Bool)
  | cleaned (count : Nat)
  | size (entries : Nat)
  | stats (figures : CacheStats)
deriving DecidableEq

namespace ResultCache

/-- Answers an operation at a time. -/
def step (c : ResultCache) : Nat × CacheOperation → CacheAnswer × ResultCache
  | (now, .put key rows) => (.done, c.put key rows now)
  | (now, .get key) => (.found (c.get key now).1, (c.get key now).2)
  | (_, .delete key) => (.deleted (c.delete key).1, (c.delete key).2)
  | (_, .clear) => (.done, c.clear)
  | (now, .clean) => (.cleaned (c.cleanExpired now).1, (c.cleanExpired now).2)
  | (_, .size) => (.size c.size, c)
  | (_, .stats) => (.stats c.stats, c)

variable {c : ResultCache} {key other : String} {rows : List Row} {now : Nat} {e : Entry}

/-! ### Reading -/

theorem expired_iff : c.expired now e = true ↔ c.timeToLive < now - e.storedAt := by
  simp [expired, policy, RetentionPolicy.bounded, RetentionPolicy.isExpired]

theorem find?_eq_some_iff :
    c.find? key now = some rows ↔ ∃ e, c.entries.get? key = some e ∧ c.expired now e = false ∧ e.rows = rows := by
  unfold find?
  cases h : c.entries.get? key with
  | none => simp
  | some e => by_cases he : c.expired now e <;> simp [he]

theorem get_fst (c : ResultCache) (key : String) (now : Nat) : (c.get key now).1 = c.find? key now := by
  unfold get
  split <;> simp [*]

theorem get_of_hit (h : c.find? key now = some rows) : c.get key now = (some rows, { c with hits := c.hits + 1 }) := by
  rw [get, h]

theorem get_of_miss (h : c.find? key now = none) : c.get key now = (none, { c with misses := c.misses + 1 }) := by
  rw [get, h]

@[simp] theorem get_entries (c : ResultCache) (key : String) (now : Nat) :
    (c.get key now).2.entries = c.entries := by
  unfold get
  split <;> rfl

@[simp] theorem get_timeToLive (c : ResultCache) (key : String) (now : Nat) :
    (c.get key now).2.timeToLive = c.timeToLive := by
  unfold get
  split <;> rfl

/-! ### Taking out and storing -/

theorem get?_remove (c : ResultCache) (key other : String) :
    (c.remove key).entries.get? other = if other = key then none else c.entries.get? other := by
  unfold remove
  split
  · exact NameMap.get?_erase _ _ _
  · next h =>
    split
    · next heq => simpa [heq, NameMap.contains] using h
    · rfl

theorem get?_of_get?_makeRoom (h : (c.makeRoom key).entries.get? other = some e) :
    c.entries.get? other = some e := by
  unfold makeRoom at h
  split at h
  · rw [get?_remove] at h
    split at h
    · cases h
    · exact h
  · split at h
    · unfold evictOldest at h
      split at h
      · exact h
      · rw [NameMap.get?_erase] at h
        split at h
        · cases h
        · exact h
    · exact h

theorem get?_put (c : ResultCache) (key other : String) (rows : List Row) (now : Nat) :
    (c.put key rows now).entries.get? other =
      if other = key then some ⟨rows, now⟩ else (c.makeRoom key).entries.get? other :=
  NameMap.get?_insert _ _ _ _

@[simp] theorem remove_timeToLive (c : ResultCache) (key : String) : (c.remove key).timeToLive = c.timeToLive := by
  unfold remove
  split <;> rfl

@[simp] theorem makeRoom_timeToLive (c : ResultCache) (key : String) :
    (c.makeRoom key).timeToLive = c.timeToLive := by
  unfold makeRoom
  split
  · exact remove_timeToLive c key
  · split
    · unfold evictOldest
      split <;> rfl
    · rfl

@[simp] theorem put_timeToLive (c : ResultCache) (key : String) (rows : List Row) (now : Nat) :
    (c.put key rows now).timeToLive = c.timeToLive := makeRoom_timeToLive c key

theorem get?_cleanExpired (c : ResultCache) (now : Nat) (key : String) :
    (c.cleanExpired now).2.entries.get? key = (c.entries.get? key).filter fun e => !c.expired now e :=
  NameMap.get?_filter _ _ _

end ResultCache

end Audience
