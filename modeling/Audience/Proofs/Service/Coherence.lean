import Audience.Proofs.Service.History

/-!
Where rows from the cache come from. `LiveService.Coherent` is the invariant over histories: every entry of the
cache was fetched in the history, at the time that the entry carries, and nothing took its place since. A step
leaves an entry or fetches it (`entry_step`), and what it leaves it did not replace.
-/

namespace Audience

namespace LiveService

/-- The warehouse answers the request's own statement, the last one sent, and its rows are the answer. -/
structure Fetches (s : LiveService) (r : FilterRequest) (rows : List Row) : Prop where
  answered : ∃ statement, (s.service.prepare r).1 = .ok statement ∧ s.service.gateway.answer statement = .ok rows ∧
    (s.step (.run r)).2.service.gateway.sent.getLast? = some statement
  reply : (s.step (.run r)).1 = .outcome (.ok ⟨rows, false⟩)

/-- The event takes out what is held under the key or puts other rows in its place. -/
inductive Replaces (key : String) : LiveService × ServiceEvent → Prop
  | delete (s : LiveService) : Replaces key (s, .delete key)
  | clear (s : LiveService) : Replaces key (s, .clear)
  | fetch {s : LiveService} {r : FilterRequest} {rows : List Row} (same : r.key = key)
      (reply : (s.step (.run r)).1 = .outcome (.ok ⟨rows, false⟩)) : Replaces key (s, .run r)

/-- The moments hold a fetch of the entry for a request with the key, and nothing replaced it since. -/
def Sourced (moments : List (LiveService × ServiceEvent)) (key : String) (e : ResultCache.Entry) : Prop :=
  ∃ before s r later, moments = before ++ (s, .run r) :: later ∧ r.key = key ∧ s.Fetches r e.rows ∧
    s.now = e.storedAt ∧ ∀ m ∈ later, ¬Replaces key m

/-- Every entry of the cache comes from the moments and is not from the future. -/
structure Coherent (moments : List (LiveService × ServiceEvent)) (s : LiveService) : Prop where
  sourced : ∀ {key e}, s.results.entries.get? key = some e → Sourced moments key e
  past : ∀ {key e}, s.results.entries.get? key = some e → e.storedAt ≤ s.now

variable {s : LiveService} {key : String} {x : ResultCache.Entry}

/-! ### One step -/

/-- Cleaning only takes out. -/
theorem get?_of_get?_cleanExpired {c : ResultCache} {now : Nat}
    (h : (c.cleanExpired now).2.entries.get? key = some x) : c.entries.get? key = some x := by
  rw [ResultCache.get?_cleanExpired] at h
  exact (Option.filter_eq_some_iff.mp h).1

theorem get?_of_get?_swept {later : Nat} (h : (s.swept later).entries.get? key = some x) :
    s.results.entries.get? key = some x :=
  s.swept_induction (P := fun c => c.entries.get? key = some x → s.results.entries.get? key = some x) later
    (fun _ hc hx => hc (get?_of_get?_cleanExpired hx)) id h

/-- A request leaves an entry, without having replaced it, or fetches it. -/
theorem entry_run (r : FilterRequest) (h : (s.step (.run r)).2.results.entries.get? key = some x) :
    (s.results.entries.get? key = some x ∧ ¬Replaces key (s, .run r)) ∨
      (r.key = key ∧ s.Fetches r x.rows ∧ s.now = x.storedAt) := by
  obtain ⟨outcome, service, hanswered, hstep⟩ := s.answered_step r
  have hresults : service.results.entries.get? key = some x := by rwa [hstep] at h
  have hother : (∀ rows, outcome ≠ .ok ⟨rows, false⟩) → ¬Replaces key (s, .run r) := by
    intro hno hrep
    cases hrep with
    | fetch _ reply =>
      rw [hstep] at reply
      exact hno _ (by simpa using reply)
  cases hanswered with
  | held rows hit => exact .inl ⟨by simpa [results] using hresults, hother (by simp)⟩
  | refused e => exact .inl ⟨by simpa [results] using hresults, hother (by simp)⟩
  | failed statement cause => exact .inl ⟨by simpa [results] using hresults, hother (by simp)⟩
  | fetched statement rows miss prepared answer =>
    rw [ResultCache.get?_put] at hresults
    split at hresults
    · next hkey =>
      obtain rfl := Option.some.inj hresults
      have hfetches : s.Fetches r rows := ⟨⟨statement, prepared, answer, by simp [hstep]⟩, by rw [hstep]⟩
      exact .inr ⟨hkey.symm, hfetches, rfl⟩
    · next hkey =>
      refine .inl ⟨by simpa [results] using ResultCache.get?_of_get?_makeRoom hresults, fun hrep => ?_⟩
      cases hrep with
      | fetch same => exact hkey same.symm

/-- What the cache holds after an event it held before, and the event did not replace it, or the event is the
request that fetched it. -/
theorem entry_step (e : ServiceEvent) (h : (s.step e).2.results.entries.get? key = some x) :
    (s.results.entries.get? key = some x ∧ ¬Replaces key (s, e)) ∨
      ∃ r, e = .run r ∧ r.key = key ∧ s.Fetches r x.rows ∧ s.now = x.storedAt := by
  cases e with
  | run r => exact (entry_run r h).imp id fun hfetch => ⟨r, rfl, hfetch⟩
  | delete other =>
    replace h : (s.results.remove other).entries.get? key = some x := h
    rw [ResultCache.get?_remove] at h
    split at h
    · cases h
    · next hne => exact .inl ⟨h, fun hrep => by cases hrep; exact hne rfl⟩
  | clear => cases h
  | clean => exact .inl ⟨get?_of_get?_cleanExpired h, fun hrep => by cases hrep⟩
  | advance ms => exact .inl ⟨get?_of_get?_swept h, fun hrep => by cases hrep⟩
  | _ => exact .inl ⟨h, fun hrep => by cases hrep⟩

/-! ### Histories -/

namespace Sourced

variable {moments : List (LiveService × ServiceEvent)} {m : LiveService × ServiceEvent}

theorem append (h : Sourced moments key x) (hm : ¬Replaces key m) : Sourced (moments ++ [m]) key x := by
  obtain ⟨before, s, r, later, rfl, hkey, hfetches, hnow, hlater⟩ := h
  refine ⟨before, s, r, later ++ [m], by simp, hkey, hfetches, hnow, fun y hy => ?_⟩
  rcases List.mem_append.mp hy with hy | hy
  · exact hlater y hy
  · obtain rfl := List.mem_singleton.mp hy
    exact hm

theorem last {r : FilterRequest} (hkey : r.key = key) (hfetches : s.Fetches r x.rows) (hnow : s.now = x.storedAt) :
    Sourced (moments ++ [(s, .run r)]) key x :=
  ⟨moments, s, r, [], rfl, hkey, hfetches, hnow, fun y hy => by cases hy⟩

end Sourced

namespace Coherent

variable {moments : List (LiveService × ServiceEvent)}

theorem of_no_entries (h : s.results.entries = ∅) : Coherent moments s where
  sourced := fun hx => by
    rw [h] at hx
    cases hx
  past := fun hx => by
    rw [h] at hx
    cases hx

/-- Every event keeps the invariant. -/
theorem step (h : Coherent moments s) (e : ServiceEvent) : Coherent (moments ++ [(s, e)]) (s.step e).2 where
  sourced := fun hx => by
    rcases entry_step e hx with ⟨hold, hkept⟩ | ⟨r, rfl, hkey, hfetches, hnow⟩
    · exact (h.sourced hold).append hkept
    · exact .last hkey hfetches hnow
  past := fun hx => by
    rcases entry_step e hx with ⟨hold, -⟩ | ⟨r, -, -, -, hnow⟩
    · exact Nat.le_trans (h.past hold) (s.step_now_le e)
    · exact hnow ▸ s.step_now_le e

/-- A request that is answered from the cache was fetched in the moments, not longer ago than the time to live.
Nothing is sent for it. -/
theorem hit (h : Coherent moments s) {r : FilterRequest} {rows : List Row}
    (hreply : (s.step (.run r)).1 = .outcome (.ok ⟨rows, true⟩)) :
    (∃ before s' r' later, moments = before ++ (s', .run r') :: later ∧ r'.key = r.key ∧ s'.Fetches r' rows ∧
        s'.now ≤ s.now ∧ s.now - s'.now ≤ s.results.timeToLive ∧ ∀ m ∈ later, ¬Replaces r.key m) ∧
      (s.step (.run r)).2.service.gateway = s.service.gateway := by
  obtain ⟨outcome, service, hanswered, hstep⟩ := s.answered_step r
  rw [hstep] at hreply ⊢
  cases hanswered with
  | held found hfound =>
    obtain rfl : found = rows := by simpa using hreply
    obtain ⟨e, hentry, hfresh, rfl⟩ := ResultCache.find?_eq_some_iff.mp hfound
    obtain ⟨before, s', r', later, hmoments, hkey, hfetches, hnow, hlater⟩ := h.sourced hentry
    have hpast := h.past hentry
    have hage : ¬s.results.timeToLive < s.now - e.storedAt := by
      rw [← ResultCache.expired_iff]
      exact Bool.not_eq_true _ ▸ hfresh
    exact ⟨⟨before, s', r', later, hmoments, hkey, hfetches, by omega, by omega, hlater⟩, rfl⟩
  | _ => simp at hreply

end Coherent

/-! ### A request that is made again -/

/-- What a request fetched is held at once. -/
theorem Fetches.entry {r : FilterRequest} {rows : List Row} (h : s.Fetches r rows) :
    (s.step (.run r)).2.results.entries.get? r.key = some ⟨rows, s.now⟩ := by
  obtain ⟨outcome, service, hanswered, hstep⟩ := s.answered_step r
  have hreply := h.reply
  rw [hstep] at hreply ⊢
  cases hanswered with
  | fetched statement found =>
    obtain rfl : found = rows := by simpa using hreply
    exact (ResultCache.get?_put _ _ _ _ _).trans (if_pos rfl)
  | _ => simp at hreply

/-- An entry that is not older than the time to live is the answer. -/
theorem reply_of_entry {r : FilterRequest} (h : s.results.entries.get? r.key = some x)
    (hage : s.now - x.storedAt ≤ s.results.timeToLive) : (s.step (.run r)).1 = .outcome (.ok ⟨x.rows, true⟩) := by
  have hfresh : s.results.expired s.now x = false := by
    rw [Bool.eq_false_iff, ne_eq, ResultCache.expired_iff]
    exact Nat.not_lt.mpr hage
  exact (s.step_of_hit (ResultCache.find?_eq_some_iff.mpr ⟨x, h, hfresh, rfl⟩)).1

/-- Sweepers leave what is not older than the time to live. -/
theorem get?_swept {later : Nat} (h : s.results.entries.get? key = some x)
    (hage : later - x.storedAt ≤ s.results.timeToLive) : (s.swept later).entries.get? key = some x := by
  have hswept := s.swept_induction later
    (P := fun c => c.timeToLive = s.results.timeToLive ∧ c.entries.get? key = some x) ?_ ⟨rfl, h⟩
  · exact hswept.2
  · rintro c ⟨hlimit, hx⟩
    have hfresh : c.expired later x = false := by
      rw [Bool.eq_false_iff, ne_eq, ResultCache.expired_iff, hlimit]
      exact Nat.not_lt.mpr hage
    refine ⟨hlimit, ?_⟩
    rw [ResultCache.get?_cleanExpired, hx]
    simp [Option.filter, hfresh]

/-- Within the time to live the same rows are the answer again, whatever the warehouse answers by then. -/
theorem Fetches.again {r other : FilterRequest} {rows : List Row} (h : s.Fetches r rows) (same : other.key = r.key)
    (answer : Warehouse) {ms : Nat} (hms : ms ≤ s.results.timeToLive) :
    ((Run.after step s [.run r, .change answer, .advance ms]).step (.run other)).1 = .outcome (.ok ⟨rows, true⟩) := by
  have hlimit := s.step_timeToLive (.run r)
  have hentry : (Run.after step s [.run r, .change answer, .advance ms]).results.entries.get? r.key =
      some ⟨rows, s.now⟩ := by
    refine get?_swept (s := Run.after step s [.run r, .change answer]) h.entry ?_
    show s.now + ms - s.now ≤ (s.step (.run r)).2.results.timeToLive
    omega
  refine reply_of_entry (same ▸ hentry) ?_
  rw [after_timeToLive]
  show s.now + ms - s.now ≤ s.results.timeToLive
  omega

/-! ### Every history -/

/-- Whatever happened to a service since its launch, a request that is answered from the cache gets the rows
that the warehouse gave to an earlier request with its key, not longer ago than the time to live, and nothing
replaced them in between. Nothing is sent for it. -/
theorem hit_was_fetched (project dataset : String) (templates : QueryTemplates) (maxEntries timeToLive : Nat)
    (warehouse : Warehouse) (now : Nat) (es : List ServiceEvent) {r : FilterRequest} {rows : List Row} {s : LiveService}
    (hs : s = Run.after step (launch project dataset templates maxEntries timeToLive warehouse now) es)
    (hreply : (s.step (.run r)).1 = .outcome (.ok ⟨rows, true⟩)) :
    (∃ before s' r' later,
        Run.moments step (launch project dataset templates maxEntries timeToLive warehouse now) es =
          before ++ (s', .run r') :: later ∧
        r'.key = r.key ∧ s'.Fetches r' rows ∧ s'.now ≤ s.now ∧ s.now - s'.now ≤ timeToLive ∧
        ∀ m ∈ later, ¬Replaces r.key m) ∧
      (s.step (.run r)).2.service.gateway = s.service.gateway := by
  subst hs
  have hcoherent := Run.moments_induction step (P := Coherent) (fun _ _ e h => h.step e)
    (Coherent.of_no_entries (s := launch project dataset templates maxEntries timeToLive warehouse now) rfl) es
  have hhit := hcoherent.hit hreply
  rwa [after_timeToLive] at hhit

/-- The warehouse fails from the first answer on; ten milliseconds later, at the time to live, the same request
is answered with the rows of the first one. -/
theorem hit_was_fetched_from_failing_warehouse :
    ∃ (warehouse : Warehouse) (r : FilterRequest) (rows : List Row) (s : LiveService),
      s = Run.after step (launch "p" "d" {} 1 10 warehouse 0)
          [.run r, .change fun _ => .error .incomplete, .advance 10] ∧
        (s.step (.run r)).1 = .outcome (.ok ⟨rows, true⟩) ∧
        (s.step (.run r)).2.service.gateway = s.service.gateway := by
  have hfetches : (launch "p" "d" {} 1 10
      (fun _ => .ok [NameMap.ofList [("column_name", .string "c"), ("data_type", .string "STRING")]]) 0).Fetches
      { table := "t", filters := [] } [NameMap.ofList [("column_name", .string "c"), ("data_type", .string "STRING")]] :=
    ⟨⟨_, rfl, rfl, rfl⟩, rfl⟩
  have hreply := hfetches.again rfl (fun _ => .error .incomplete) (Nat.le_refl 10)
  exact ⟨_, _, _, _, rfl, hreply, (hit_was_fetched "p" "d" {} 1 10 _ 0 _ rfl hreply).2⟩

end LiveService

end Audience
