import Audience.Proofs.Results.KeyOrder
import Audience.Proofs.Results.Retention
import Audience.Proofs.Service.History

/-!
A request that is made again. A service uses its cache of results by the operations of the cache and in no other way
(`results_run`), so what holds of every run of a cache holds of the cache in every history of a service. What a request
fetched is therefore found while it is fresh, not taken out by hand, and fewer other keys are fetched than there is room
for; and as long as it is found, its key is not fetched again.
-/

namespace Audience

namespace LiveService

variable {s : LiveService} {e : ServiceEvent} {r other : FilterRequest} {rows : List Row}

/-! ### The operations of a history -/

/-- The rows that a moment fetched, with the key that they are stored under. -/
def fetched? : LiveService × ServiceEvent → Option (String × List Row)
  | (s, .run r) =>
    match (s.step (.run r)).1 with
    | .outcome (.ok ⟨rows, false⟩) => some (r.key, rows)
    | _ => none
  | _ => none

theorem fetched?_eq_some_iff {key : String} : fetched? (s, e) = some (key, rows) ↔
    ∃ r, e = .run r ∧ r.key = key ∧ (s.step e).1 = .outcome (.ok ⟨rows, false⟩) := by
  cases e with
  | run r =>
    simp only [fetched?]
    split
    · next found hreply => simp [hreply]
    · next hno => simpa using fun _ => hno rows
  | _ => simp [fetched?]

/-- The operations by which a moment uses the cache of results, with their times. -/
def operations : LiveService × ServiceEvent → List (Nat × CacheOperation)
  | (s, .run r) =>
    (s.now, .get r.key) :: (fetched? (s, .run r)).toList.map fun stored => (s.now, .put stored.1 stored.2)
  | (s, .delete key) => [(s.now, .delete key)]
  | (s, .clear) => [(s.now, .clear)]
  | (s, .clean) => [(s.now, .clean)]
  | (s, .advance ms) => (s.sweepers.filter (·.isDue s.now (s.now + ms))).map fun _ => (s.now + ms, .clean)
  | _ => []

theorem swept_eq_after (s : LiveService) (later : Nat) :
    s.swept later = Run.after ResultCache.step s.results
      ((s.sweepers.filter (·.isDue s.now later)).map fun _ => (later, .clean)) := by
  unfold swept
  generalize s.results = c
  induction s.sweepers generalizing c with
  | nil => rfl
  | cons w rest ih =>
    rw [List.foldl_cons, ih, List.filter_cons]
    by_cases hdue : w.isDue s.now later
    · simp [Sweeper.sweep, hdue, Run.after, ResultCache.step]
    · simp [Sweeper.sweep, hdue]

theorem results_run_request (s : LiveService) (r : FilterRequest) :
    (s.step (.run r)).2.results = Run.after ResultCache.step s.results (operations (s, .run r)) := by
  obtain ⟨outcome, service, hanswered, hstep⟩ := s.answered_step r
  simp only [operations, fetched?, hstep]
  cases hanswered with
  | held | refused | failed => rfl
  | fetched => rfl

theorem results_step (s : LiveService) (e : ServiceEvent) :
    (s.step e).2.results = Run.after ResultCache.step s.results (operations (s, e)) := by
  cases e with
  | run r => exact results_run_request s r
  | advance ms => exact s.swept_eq_after (s.now + ms)
  | _ => rfl

theorem results_run (s : LiveService) (es : List ServiceEvent) :
    (Run.after step s es).results =
      Run.after ResultCache.step s.results ((Run.moments step s es).flatMap operations) := by
  induction es generalizing s with
  | nil => rfl
  | cons e es ih => rw [Run.after, ih, results_step, Run.moments, List.flatMap_cons, Run.after_append]

/-! ### Times and keys of the operations -/

/-- The operations of an event have one time, between the clock before it and after it. -/
theorem operations_time (s : LiveService) (e : ServiceEvent) :
    ∃ time, s.now ≤ time ∧ time ≤ (s.step e).2.now ∧ ∀ o ∈ operations (s, e), o.1 = time := by
  cases e with
  | run r =>
    refine ⟨s.now, le_rfl, le_rfl, List.forall_mem_cons.mpr ⟨rfl, fun o ho => ?_⟩⟩
    obtain ⟨stored, -, rfl⟩ := List.mem_map.mp ho
    rfl
  | advance ms =>
    refine ⟨s.now + ms, Nat.le_add_right _ _, le_rfl, fun o ho => ?_⟩
    obtain ⟨w, -, rfl⟩ := List.mem_map.mp ho
    rfl
  | delete | clear | clean => exact ⟨s.now, le_rfl, le_rfl, by simp [operations]⟩
  | _ => exact ⟨s.now, le_rfl, le_rfl, List.forall_mem_nil _⟩

theorem since_operations (s : LiveService) (es : List ServiceEvent) :
    Run.Since s.now ((Run.moments step s es).flatMap operations) ∧
      ∀ o ∈ (Run.moments step s es).flatMap operations, o.1 ≤ (Run.after step s es).now := by
  induction es generalizing s with
  | nil => exact ⟨⟨List.forall_mem_nil _, .nil⟩, List.forall_mem_nil _⟩
  | cons e es ih =>
    -- The operations of `e` share a time, so only what comes later is compared with them.
    obtain ⟨⟨hlater, hchronological⟩, hnow⟩ := ih (s.step e).2
    obtain ⟨time, hfrom, hto, htime⟩ := s.operations_time e
    rw [Run.moments, List.flatMap_cons]
    refine ⟨⟨List.forall_mem_append.mpr ⟨fun o ho => ?_, fun o ho => ?_⟩, List.pairwise_append.mpr ⟨?_, hchronological, ?_⟩⟩,
      List.forall_mem_append.mpr ⟨fun o ho => ?_, hnow⟩⟩
    · rw [htime o ho]
      exact hfrom
    · exact (s.step_now_le e).trans (hlater o ho)
    · refine List.pairwise_of_forall_mem_list fun o ho o' ho' => ?_
      rw [htime o ho, htime o' ho']
    · intro o ho o' ho'
      rw [htime o ho]
      exact hto.trans (hlater o' ho')
    · rw [htime o ho]
      exact hto.trans (after_now_le _ es)

/-- The keys that rows were fetched under, in order. -/
def fetchedKeys (moments : List (LiveService × ServiceEvent)) : List String :=
  moments.filterMap fun m => (fetched? m).map (·.1)

/-- The other keys that rows were fetched under, each once. -/
def othersFetched (key : String) (moments : List (LiveService × ServiceEvent)) : Finset String :=
  (fetchedKeys moments).toFinset.erase key

theorem storedKeys_operations (m : LiveService × ServiceEvent) :
    storedKeys (operations m) = ((fetched? m).map (·.1)).toList := by
  obtain ⟨s, e⟩ := m
  cases e with
  | run r => cases h : fetched? (s, .run r) <;> simp [operations, storedKeys, CacheOperation.storedKey?, h]
  | advance ms => simp [operations, storedKeys, fetched?, CacheOperation.storedKey?]
  | _ => rfl

theorem storedKeys_flatMap_operations (moments : List (LiveService × ServiceEvent)) :
    storedKeys (moments.flatMap operations) = fetchedKeys moments := by
  induction moments with
  | nil => rfl
  | cons m moments ih =>
    rw [List.flatMap_cons, storedKeys_append, storedKeys_operations, ih, fetchedKeys, fetchedKeys]
    cases h : fetched? m <;> simp [h]

theorem spares_operations {key : String} (hclear : e ≠ .clear) (hdelete : e ≠ .delete key) :
    ∀ o ∈ operations (s, e), o.2.Spares key := by
  cases e with
  | run r =>
    refine List.forall_mem_cons.mpr ⟨⟨nofun, nofun⟩, fun o ho => ?_⟩
    obtain ⟨stored, -, rfl⟩ := List.mem_map.mp ho
    exact ⟨nofun, nofun⟩
  | advance ms =>
    intro o ho
    obtain ⟨w, -, rfl⟩ := List.mem_map.mp ho
    exact ⟨nofun, nofun⟩
  | delete other => simpa [operations, CacheOperation.Spares] using hdelete
  | clear => exact absurd rfl hclear
  | clean => simp [operations, CacheOperation.Spares]
  | _ => exact List.forall_mem_nil _

/-! ### While the rows are held -/

/-- Nothing that happens takes out what is held under the key, fewer other keys are fetched than there is room for, and
the clock does not pass the deadline. -/
structure Spares (key : String) (room deadline : Nat) (s : LiveService) (later : List ServiceEvent) : Prop where
  byHand : ∀ e ∈ later, e ≠ .clear ∧ e ≠ .delete key
  others : (othersFetched key (Run.moments step s later)).card < room
  inTime : (Run.after step s later).now ≤ deadline

variable {key : String} {room deadline : Nat} {later : List ServiceEvent}

theorem fetchedKeys_append (moments others : List (LiveService × ServiceEvent)) :
    fetchedKeys (moments ++ others) = fetchedKeys moments ++ fetchedKeys others :=
  List.filterMap_append

theorem Spares.init (h : Spares key room deadline s (later ++ [e])) : Spares key room deadline s later where
  byHand := fun f hf => h.byHand f (List.mem_append_left _ hf)
  others := by
    refine lt_of_le_of_lt (Finset.card_le_card (Finset.erase_subset_erase key fun other hother => ?_)) h.others
    rw [Run.moments_append, fetchedKeys_append]
    exact List.mem_toFinset.mpr (List.mem_append_left _ (List.mem_toFinset.mp hother))
  inTime := by
    have htime := h.inTime
    rw [Run.after_append] at htime
    exact (after_now_le _ [e]).trans htime

theorem lastStored_of_reply {start : LiveService} {es : List ServiceEvent} (hs : s = Run.after step start es)
    (hreply : (s.step (.run r)).1 = .outcome (.ok ⟨rows, false⟩))
    (hlast : r.key ∉ fetchedKeys (Run.moments step (s.step (.run r)).2 later)) :
    LastStored ((Run.moments step start (es ++ .run r :: later)).flatMap operations) r.key rows s.now
      ((Run.moments step (s.step (.run r)).2 later).flatMap operations) where
  stored := by
    refine ⟨(Run.moments step start es).flatMap operations ++ [(s.now, .get r.key)], ?_⟩
    rw [Run.moments_append, ← hs, Run.moments, List.flatMap_append, List.flatMap_cons]
    simp [operations, fetched?_eq_some_iff.mpr ⟨r, rfl, rfl, hreply⟩]
  last := by rwa [storedKeys_flatMap_operations]

/-! ### Every history -/

section

variable {project dataset : String} {templates : QueryTemplates} {maxEntries timeToLive : Nat} {warehouse : Warehouse}
  {now : Nat} {es : List ServiceEvent}

/-- What was fetched is found after what spares it, if its key was not fetched again. -/
theorem find?_of_not_fetched
    (hs : s = Run.after step (launch project dataset templates maxEntries timeToLive warehouse now) es)
    (hreply : (s.step (.run r)).1 = .outcome (.ok ⟨rows, false⟩))
    (hspares : Spares r.key (max maxEntries 1) (s.now + timeToLive) (s.step (.run r)).2 later)
    (hlast : r.key ∉ fetchedKeys (Run.moments step (s.step (.run r)).2 later)) :
    (Run.after step (s.step (.run r)).2 later).results.find? r.key (Run.after step (s.step (.run r)).2 later).now =
      some rows := by
  -- The cache saw the whole history since the launch, and the last rows stored under the key are those of `r`.
  have hafter : Run.after step (s.step (.run r)).2 later =
      Run.after step (launch project dataset templates maxEntries timeToLive warehouse now) (es ++ .run r :: later) := by
    rw [Run.after_append, ← hs]
    rfl
  obtain ⟨hchronological, hnow⟩ := since_operations (launch project dataset templates maxEntries timeToLive warehouse now)
    (es ++ .run r :: later)
  have hfound := ResultCache.get_of_lastStored maxEntries timeToLive hchronological.2
    (lastStored_of_reply hs hreply hlast) ?_ ?_ hnow ?_
  · rw [ResultCache.get_fst] at hfound
    rw [hafter, results_run]
    exact hfound
  · intro o ho
    obtain ⟨m, hm, ho⟩ := List.mem_flatMap.mp ho
    obtain ⟨hclear, hdelete⟩ := hspares.byHand m.2 (Run.mem_of_mem_moments step hm)
    exact spares_operations hclear hdelete o ho
  · rw [othersStored, storedKeys_flatMap_operations]
    exact hspares.others
  · rw [← hafter]
    have htime := hspares.inTime
    omega

/-- What was fetched is not fetched again as long as it is spared. -/
theorem not_fetched_of_spares
    (hs : s = Run.after step (launch project dataset templates maxEntries timeToLive warehouse now) es)
    (hreply : (s.step (.run r)).1 = .outcome (.ok ⟨rows, false⟩))
    (hspares : Spares r.key (max maxEntries 1) (s.now + timeToLive) (s.step (.run r)).2 later) :
    r.key ∉ fetchedKeys (Run.moments step (s.step (.run r)).2 later) := by
  induction later using List.reverseRecOn with
  | nil => exact List.not_mem_nil
  | append_singleton later e ih =>
    have hlast := ih hspares.init
    have hfound := find?_of_not_fetched hs hreply hspares.init hlast
    rw [Run.moments_append, fetchedKeys_append, List.mem_append, not_or]
    refine ⟨hlast, fun hagain => ?_⟩
    -- A fetch by `e` under the same key would be a miss, but the rows are found when `e` comes.
    obtain ⟨m, hm, hkey⟩ := List.mem_filterMap.mp hagain
    obtain rfl := List.mem_singleton.mp hm
    obtain ⟨⟨key, refetched⟩, hfetched, rfl⟩ := Option.map_eq_some_iff.mp hkey
    obtain ⟨q, rfl, hsame, hreply'⟩ := fetched?_eq_some_iff.mp hfetched
    have hhit := (step_of_hit _ (hsame ▸ hfound)).1
    simp [hreply'] at hhit

end

/-- A request that was fetched is answered with the same rows, and nothing is sent, whenever it is made again for the
same table, campaign and mode with its filters in any order, as long as the rows are spared. What the warehouse answers
by then and what became of the schemas does not matter. -/
theorem repeated_selection_is_held (project dataset : String) (templates : QueryTemplates) (maxEntries timeToLive : Nat)
    (warehouse : Warehouse) (now : Nat) (es : List ServiceEvent) {s : LiveService} {r other : FilterRequest}
    {rows : List Row} {later : List ServiceEvent}
    (hs : s = Run.after step (launch project dataset templates maxEntries timeToLive warehouse now) es)
    (hreply : (s.step (.run r)).1 = .outcome (.ok ⟨rows, false⟩))
    (hspares : Spares r.key (max maxEntries 1) (s.now + timeToLive) (s.step (.run r)).2 later)
    (htable : other.table = r.table) (hcampaign : other.campaign.name = r.campaign.name) (hmode : other.mode = r.mode)
    (hfilters : other.filters.Perm r.filters) :
    ((Run.after step (s.step (.run r)).2 later).step (.run other)).1 = .outcome (.ok ⟨rows, true⟩) ∧
      ((Run.after step (s.step (.run r)).2 later).step (.run other)).2.service.gateway =
        (Run.after step (s.step (.run r)).2 later).service.gateway := by
  have hfound := find?_of_not_fetched hs hreply hspares (not_fetched_of_spares hs hreply hspares)
  rw [← FilterRequest.key_congr htable hcampaign hmode hfilters] at hfound
  exact step_of_hit _ hfound

/-- The schema is given up, the warehouse fails and a sweeper ticks twice; at the time to live the two filters are asked
for in the other order. -/
theorem repeated_selection_is_held_in_other_order :
    ∃ (warehouse : Warehouse) (r other : FilterRequest) (rows : List Row) (s later : LiveService),
      s = launch "p" "d" {} 1 10 warehouse 0 ∧ r.filters ≠ other.filters ∧
        later = Run.after step (s.step (.run r)).2
          [.invalidate ⟨"p", "d", "t"⟩, .change fun _ => .error .incomplete, .startSweeper 5, .advance 5, .advance 5] ∧
        (later.step (.run other)).1 = .outcome (.ok ⟨rows, true⟩) ∧
        (later.step (.run other)).2.service.gateway = later.service.gateway := by
  have hreply : ((launch "p" "d" {} 1 10
      (fun _ => .ok [NameMap.ofList [("column_name", .string "c"), ("data_type", .string "STRING")]]) 0).step
        (.run ⟨"t", [⟨"c", "g", .str "x"⟩, ⟨"c", "g", .str "y"⟩], .unspecified, .standard⟩)).1 =
      .outcome (.ok ⟨[NameMap.ofList [("column_name", .string "c"), ("data_type", .string "STRING")]], false⟩) := rfl
  refine ⟨_, _, ⟨"t", [⟨"c", "g", .str "y"⟩, ⟨"c", "g", .str "x"⟩], .unspecified, .standard⟩, _, _, _, rfl, by simp, rfl,
    repeated_selection_is_held "p" "d" {} 1 10 _ 0 [] rfl hreply ⟨by simp, ?_, le_rfl⟩ rfl rfl rfl (.swap _ _ [])⟩
  exact Nat.zero_lt_one

end LiveService

end Audience
