import Audience.Http.Address
import Audience.Results.Sweeper
import Audience.Service.FilterService
import Audience.Warehouse.Remote

/-!
The settings of the service: where it listens, its warehouse, the limits of its result cache and the names in
its statements. A limit of zero would leave the cache or its sweeper of no use, so the service does not start
with one; nor does it start without a numeric address to listen on.
-/

namespace Audience

/-- A number of milliseconds in whole seconds. -/
def Settings.wholeSeconds (milliseconds : Nat) : UInt64 := .ofNat (milliseconds / 1000)

/-- The settings of the service. Times are in seconds. -/
structure Settings where
  host : String := "0.0.0.0"
  portNumber : UInt16 := 8080
  warehouse : RemoteWarehouse := {}
  /-- How many results the cache holds. -/
  maxEntries : UInt64 := .ofNat ResultCache.standardCapacity
  /-- How long a result is fresh. -/
  timeToLive : UInt64 := Settings.wholeSeconds ResultCache.standardTimeToLive
  /-- How far apart the sweeps of the cache are. -/
  sweepInterval : UInt64 := Settings.wholeSeconds Sweeper.standardInterval
  templates : QueryTemplates := {}
deriving DecidableEq, Repr

/-- Why settings are of no use. -/
inductive SettingsError where
  | zero (setting : String)
deriving DecidableEq, Repr

/-- The message of the cause. -/
def SettingsError.message : SettingsError → String
  | zero setting => s!"{setting} must be greater than zero"

/-- Why the service does not start. -/
inductive StartError where
  | settings (cause : SettingsError)
  | address
deriving DecidableEq, Repr

/-- The message of each cause. -/
def StartError.message : StartError → String
  | settings cause => cause.message
  | address => "invalid socket address syntax"

namespace Settings

/-- A number of seconds in milliseconds. -/
def milliseconds (seconds : UInt64) : Nat := seconds.toNat * 1000

/-- The first limit of zero. -/
def firstZero? (s : Settings) : Option String :=
  if s.maxEntries = 0 then some "cache_max_entries"
  else if s.timeToLive = 0 then some "cache_ttl_secs"
  else if s.sweepInterval = 0 then some "cache_sweep_interval_secs"
  else none

/-- Refuses settings with a limit of zero. -/
def validate (s : Settings) : Except SettingsError Unit :=
  match s.firstZero? with
  | some setting => .error (.zero setting)
  | none => .ok ()

theorem validate_eq_ok_iff {s : Settings} :
    s.validate = .ok () ↔ s.maxEntries ≠ 0 ∧ s.timeToLive ≠ 0 ∧ s.sweepInterval ≠ 0 := by
  unfold validate firstZero?
  split
  · next h => grind
  · next h => grind

/-- The empty result cache. -/
def results (s : Settings) : ResultCache := .new s.maxEntries.toNat (milliseconds s.timeToLive)

/-- The sweeper of the result cache, started at a time. -/
def sweeper (s : Settings) (now : Nat) : Sweeper := .start (milliseconds s.sweepInterval) now

/-- The service over a warehouse. -/
def service (s : Settings) (warehouse : Warehouse) : FilterService :=
  .new s.warehouse.project s.warehouse.dataset s.templates s.results warehouse

/-- Starts the service over a warehouse. The limits are looked at before the address. -/
def start (s : Settings) (warehouse : Warehouse) : Except StartError FilterService :=
  match s.validate with
  | .error cause => .error (.settings cause)
  | .ok () => if Http.Address.isNumeric s.host then .ok (s.service warehouse) else .error .address

end Settings

end Audience
