/-!
How long results are kept and how many. An entry is expired when it is older than the time to live, so at
exactly that age it is still fresh. Times and ages are in milliseconds.
-/

namespace Audience

/-- The limits of a store; a missing one does not limit. -/
structure RetentionPolicy where
  timeToLive : Option Nat
  maxEntries : Option Nat
deriving DecidableEq, Repr

namespace RetentionPolicy

/-- Both limits. -/
def bounded (maxEntries timeToLive : Nat) : RetentionPolicy := ⟨some timeToLive, some maxEntries⟩

/-- An entry of this age is expired. -/
def isExpired (p : RetentionPolicy) (age : Nat) : Bool :=
  match p.timeToLive with
  | some ttl => ttl < age
  | none => false

/-- A store of this size has no room for one more entry. -/
def isFull (p : RetentionPolicy) (size : Nat) : Bool :=
  match p.maxEntries with
  | some most => most ≤ size
  | none => false

end RetentionPolicy

end Audience
