import Audience.Proofs.Service.Answer
import Audience.Results.Sweeper

/-!
A service as it lives on: requests are answered, its caches are handled from outside, the warehouse changes,
sweepers are started and stopped, and time passes. The clock does not go back, and the limits of the cache stay
as they were at the start.
-/

namespace Audience

/-- A service with its clock and the sweepers of its cache of results. -/
structure LiveService where
  service : FilterService
  sweepers : List Sweeper
  now : Nat

/-- What can happen to a service. -/
inductive ServiceEvent where
  | run (r : FilterRequest)
  | delete (key : String)
  | clear
  | clean
  | invalidate (t : TableRef)
  | invalidateAll
  /-- The warehouse answers in another way: it holds other rows, or it fails or works again. -/
  | change (answer : Warehouse)
  | startSweeper (interval : Nat)
  | stopSweeper (index : Nat)
  | advance (ms : Nat)

/-- What is answered to an event. -/
inductive ServiceReply where
  | done
  | outcome (outcome : Except FilterQueryError FilterOutcome)
  | deleted (existed : Bool)
  | cleaned (count : Nat)
  | invalidated (existed : Bool)

namespace LiveService

/-- A service that nothing happened to yet, with empty caches, at a time. -/
def launch (project dataset : String) (templates : QueryTemplates) (maxEntries timeToLive : Nat)
    (warehouse : Warehouse) (now : Nat) : LiveService :=
  ⟨.new project dataset templates (.new maxEntries timeToLive) warehouse, [], now⟩

def results (s : LiveService) : ResultCache := s.service.results

def withResults (s : LiveService) (c : ResultCache) : LiveService :=
  { s with service := { s.service with results := c } }

def withSchemas (s : LiveService) (c : SchemaCache) : LiveService :=
  { s with service := { s.service with schemas := c } }

/-- The cache of results after the sweepers have ticked up to a time. -/
def swept (s : LiveService) (later : Nat) : ResultCache :=
  s.sweepers.foldl (fun c w => w.sweep c s.now later) s.results

/-- Answers an event. -/
def step (s : LiveService) : ServiceEvent → ServiceReply × LiveService
  | .run r => (.outcome (s.service.run s.now r).1, { s with service := (s.service.run s.now r).2 })
  | .delete key => (.deleted (s.results.delete key).1, s.withResults (s.results.delete key).2)
  | .clear => (.done, s.withResults s.results.clear)
  | .clean => (.cleaned (s.results.cleanExpired s.now).1, s.withResults (s.results.cleanExpired s.now).2)
  | .invalidate t =>
    (.invalidated (s.service.schemas.invalidate t).1, s.withSchemas (s.service.schemas.invalidate t).2)
  | .invalidateAll => (.done, s.withSchemas s.service.schemas.invalidateAll)
  | .change answer =>
    (.done, { s with service := { s.service with gateway := { s.service.gateway with answer } } })
  | .startSweeper interval => (.done, { s with sweepers := .start interval s.now :: s.sweepers })
  | .stopSweeper index => (.done, { s with sweepers := s.sweepers.modify index Sweeper.stop })
  | .advance ms => (.done, { s.withResults (s.swept (s.now + ms)) with now := s.now + ms })

variable (s : LiveService)

/-- A request is answered in one of the four ways. -/
theorem answered_step (r : FilterRequest) :
    ∃ outcome service, s.service.Answered r s.now outcome service ∧
      s.step (.run r) = (.outcome outcome, { s with service := service }) :=
  ⟨_, _, s.service.answered_run r s.now, rfl⟩

/-- Rows that are found are the answer, and nothing is sent. -/
theorem step_of_hit {r : FilterRequest} {rows : List Row} (h : s.results.find? r.key s.now = some rows) :
    (s.step (.run r)).1 = .outcome (.ok ⟨rows, true⟩) ∧
      (s.step (.run r)).2.service.gateway = s.service.gateway := by
  obtain ⟨outcome, service, hanswered, hstep⟩ := s.answered_step r
  rw [hstep]
  cases hanswered with
  | held found hit =>
    obtain rfl : found = rows := Option.some.inj (hit.symm.trans h)
    exact ⟨rfl, rfl⟩
  | refused _ miss | failed _ _ miss | fetched _ _ miss => exact absurd (h.symm.trans miss) (by simp)

/-! ### Sweeping -/

/-- What holds of a cache and outlasts its cleaning holds once the sweepers have ticked. -/
theorem swept_induction {P : ResultCache → Prop} (later : Nat)
    (keeps : ∀ c, P c → P (c.cleanExpired later).2) (h : P s.results) : P (s.swept later) := by
  unfold swept
  generalize s.results = c at h
  induction s.sweepers generalizing c with
  | nil => exact h
  | cons w rest ih =>
    have hsweep : P (w.sweep c s.now later) := by
      unfold Sweeper.sweep
      split
      · exact keeps c h
      · exact h
    exact ih _ hsweep

/-! ### What lasts -/

theorem step_now_le (e : ServiceEvent) : s.now ≤ (s.step e).2.now := by
  cases e with
  | advance ms => exact Nat.le_add_right _ _
  | _ => exact Nat.le_refl _

theorem after_now_le (es : List ServiceEvent) : s.now ≤ (Run.after step s es).now :=
  Run.after_induction step (P := fun later => s.now ≤ later.now)
    (fun later e h => Nat.le_trans h (later.step_now_le e)) (Nat.le_refl _) es

theorem step_timeToLive (e : ServiceEvent) : (s.step e).2.results.timeToLive = s.results.timeToLive := by
  cases e with
  | run r =>
    obtain ⟨outcome, service, hanswered, hstep⟩ := s.answered_step r
    rw [hstep]
    show service.results.timeToLive = s.service.results.timeToLive
    cases hanswered <;> simp
  | delete key => exact ResultCache.remove_timeToLive _ _
  | advance ms => exact s.swept_induction (P := fun c => c.timeToLive = s.results.timeToLive) _ (fun _ h => h) rfl
  | _ => rfl

theorem after_timeToLive (es : List ServiceEvent) :
    (Run.after step s es).results.timeToLive = s.results.timeToLive :=
  Run.after_induction step (P := fun later => later.results.timeToLive = s.results.timeToLive)
    (fun later e h => (later.step_timeToLive e).trans h) rfl es

end LiveService

end Audience
