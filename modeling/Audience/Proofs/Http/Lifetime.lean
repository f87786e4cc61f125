import Audience.Proofs.Http.Serving
import Audience.Proofs.Results.Refinement
import Audience.Proofs.Service.Repetition

/-!
A server whose cache of results is used directly as well. Whoever starts a server holds its cache too, so rows may be
stored under any key, also under one that no request has. Whatever happens, the cache stands for a list of records within
the limits of the settings (`Server.sound_reached`). A request that calls for a route and a method of it has the answer that
the route has for the method (`Server.handle_of_calls`).
-/

namespace Audience

namespace ResultCache

variable {capacity timeToLive now later : Nat} {c : ResultCache}

/-! ### The cache over time -/

/-- The cache stands for a list of records with these limits, none of them from after the time. -/
def Sound (capacity timeToLive now : Nat) (c : ResultCache) : Prop :=
  ∃ j, Represents c j ∧ Journal.Sound now j ∧ j.capacity = capacity ∧ j.timeToLive = timeToLive

theorem sound_new (maxEntries timeToLive now : Nat) : Sound (max maxEntries 1) timeToLive now (new maxEntries timeToLive) :=
  ⟨_, represents_new maxEntries timeToLive, Journal.sound_new maxEntries timeToLive now, rfl, rfl⟩

namespace Sound

theorem lasts (h : Sound capacity timeToLive now c) (hle : now ≤ later) : Sound capacity timeToLive later c := by
  obtain ⟨j, hrep, hsound, hlimits⟩ := h
  exact ⟨j, hrep, hsound.lasts hle, hlimits⟩

theorem step (h : Sound capacity timeToLive now c) (op : CacheOperation) :
    Sound capacity timeToLive now (c.step (now, op)).2 := by
  obtain ⟨j, hrep, hsound, hcapacity, htime⟩ := h
  exact ⟨_, (hrep.step hsound op).2, hsound.step op, (j.step_capacity _).trans hcapacity, (j.step_timeToLive _).trans htime⟩

theorem run (h : Sound capacity timeToLive now c) {es : List (Nat × CacheOperation)} (hes : ∀ e ∈ es, e.1 = now) :
    Sound capacity timeToLive now (Run.after ResultCache.step c es) := by
  induction es generalizing c with
  | nil => exact h
  | cons e es ih =>
    obtain ⟨hfirst, hrest⟩ := List.forall_mem_cons.mp hes
    obtain ⟨time, op⟩ := e
    obtain rfl : time = now := hfirst
    exact ih (h.step op) hrest

theorem timeToLive_eq (h : Sound capacity timeToLive now c) : c.timeToLive = timeToLive := by
  obtain ⟨j, hrep, -, -, htime⟩ := h
  exact hrep.timeToLive.trans htime

theorem inStep (h : Sound capacity timeToLive now c) : InStep capacity c := by
  obtain ⟨j, hrep, hsound, rfl, -⟩ := h
  exact hrep.inStep hsound

theorem size_le (h : Sound capacity timeToLive now c) : c.size ≤ capacity := by
  obtain ⟨j, hrep, hsound, rfl, -⟩ := h
  rw [hrep.size hsound]
  exact hsound.within

end Sound

end ResultCache

/-- A service that goes on keeps its cache of results sound. -/
theorem LiveService.sound_step {s : LiveService} {capacity timeToLive : Nat}
    (h : s.results.Sound capacity timeToLive s.now) (e : ServiceEvent) :
    (s.step e).2.results.Sound capacity timeToLive (s.step e).2.now := by
  obtain ⟨time, hfrom, hto, htime⟩ := s.operations_time e
  rw [s.results_step e]
  exact ((h.lasts hfrom).run htime).lasts hto

namespace Http

/-! ### Runs -/

/-- What can happen to a server whose cache of results is used directly as well. -/
inductive SharedEvent where
  | served (e : ServerEvent)
  | direct (op : CacheOperation)

namespace Server

/-- Answers an event. Only a request has a response. -/
def sharedStep (s : LiveService) : SharedEvent → Option Response × LiveService
  | .served e => step s e
  | .direct op => (none, s.withResults (s.results.step (s.now, op)).2)

variable {s : LiveService} {capacity timeToLive : Nat}

theorem sound_perform (h : s.results.Sound capacity timeToLive s.now) (t : Task) :
    (t.perform s.service s.now).results.Sound capacity timeToLive s.now := by
  cases t with
  | nothing => exact h
  | query q => exact LiveService.sound_step h (.run q)
  | deleteEntry key => exact LiveService.sound_step h (.delete key)
  | clear => exact LiveService.sound_step h .clear
  | clean => exact LiveService.sound_step h .clean
  | introspect | forget =>
    simp only [Task.perform]
    split <;> exact h

theorem sound_sharedStep (h : s.results.Sound capacity timeToLive s.now) (e : SharedEvent) :
    (sharedStep s e).2.results.Sound capacity timeToLive (sharedStep s e).2.now := by
  cases e with
  | direct op => exact h.step op
  | served e =>
    cases e with
    | request r =>
      rw [sharedStep, step_request]
      exact sound_perform h r.task
    | change answer => exact LiveService.sound_step h (.change answer)
    | advance ms => exact LiveService.sound_step h (.advance ms)

/-- The server that was started with the settings, after all that happened since. -/
def reached (settings : Settings) (warehouse : Warehouse) (start : Nat) (es : List SharedEvent) : LiveService :=
  Run.after sharedStep (launch settings warehouse start) es

/-- The cache of results of a server is sound after all that happened, within the limits of the settings. -/
theorem sound_reached (settings : Settings) (warehouse : Warehouse) (start : Nat) (es : List SharedEvent) :
    (reached settings warehouse start es).results.Sound (max settings.maxEntries.toNat 1)
      (Settings.milliseconds settings.timeToLive) (reached settings warehouse start es).now :=
  Run.after_induction sharedStep
    (P := fun s => s.results.Sound (max settings.maxEntries.toNat 1) (Settings.milliseconds settings.timeToLive) s.now)
    (fun _ e h => sound_sharedStep h e) (ResultCache.sound_new _ _ start) es

end Server

/-! ### Calls -/

/-- The request calls for the method of the route. -/
def Request.Calls (r : Request) (method : String) (route : Route) : Prop :=
  r.method = method ∧ Route.ofPath? (targetParts r.target).1 = some route

instance (r : Request) (method : String) (route : Route) : Decidable (r.Calls method route) :=
  inferInstanceAs (Decidable (_ ∧ _))

example : Request.Calls ⟨"DELETE", "/cache?key=a", [], ""⟩ "DELETE" .cache := by decide +kernel

namespace Server

variable {s after : FilterService} {now : Nat} {r : Request} {response : Response} {method : String} {route : Route}

theorem handle_of_calls (h : r.Calls method route) (hoptions : method ≠ "OPTIONS") (hhead : method ≠ "HEAD")
    (hserve : serve? s now r (targetParts r.target).2 route method = some (response, after)) :
    handle s now r = (response.withHeader "access-control-allow-origin" "*", after) := by
  obtain ⟨rfl, hroute⟩ := h
  simp only [handle, serveRoute, hroute, hserve, if_neg hoptions, if_neg hhead]

theorem handle_snd_of_calls (h : r.Calls method route) (hoptions : method ≠ "OPTIONS") (hhead : method ≠ "HEAD") :
    (handle s now r).2 = (Task.onRoute r (targetParts r.target).2 route method).perform s now := by
  obtain ⟨rfl, hroute⟩ := h
  rw [handle_snd, Request.task, if_neg hoptions, hroute]
  dsimp only
  rw [if_neg hhead]

end Server

end Http

end Audience
