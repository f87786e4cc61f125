import Audience.Results.Cache

/-!
The sweeper takes expired entries out of a cache at fixed intervals. Reading passes over expired entries
anyway, so sweeping only frees room. Its ticks are the start plus every positive multiple of the interval.
-/

namespace Audience

/-- A sweeper with the time of its start. -/
structure Sweeper where
  interval : Nat
  startedAt : Nat
  running : Bool
deriving DecidableEq, Repr

namespace Sweeper

/-- The interval in place of one of zero. -/
def leastInterval : Nat := 1000

/-- The interval when nothing is said: ten minutes. -/
def standardInterval : Nat := 10 * 60 * 1000

/-- A sweeper that starts now. -/
def start (interval now : Nat) : Sweeper :=
  ⟨if interval = 0 then leastInterval else interval, now, true⟩

/-- The sweeper without further ticks. -/
def stop (s : Sweeper) : Sweeper := { s with running := false }

/-- How many ticks have come up to a time. -/
def ticks (s : Sweeper) (now : Nat) : Nat := (now - s.startedAt) / s.interval

/-- The sweeper ticks after the first time and not after the second. -/
def isDue (s : Sweeper) (since now : Nat) : Bool := s.running && s.ticks since < s.ticks now

/-- The cache after the time has gone on. -/
def sweep (s : Sweeper) (c : ResultCache) (since now : Nat) : ResultCache :=
  if s.isDue since now then (c.cleanExpired now).2 else c

end Sweeper

end Audience
