import Audience.Proofs.Http.Figures

/-!
What the administration of a server touches. Each administrative request changes one part of the service at most: one of
the two caches, or what was sent to the warehouse (`Administered`). Of the cache of results it leaves all that it does not
name: the other entries, their order and the counters (`ResultCache.Retains`). This holds after all that can happen to a
server, so also with expired entries, with an entry under the empty key, for a table that is held already and for a
warehouse that fails.
-/

namespace Audience

namespace ResultCache

variable {capacity timeToLive now : Nat} {c : ResultCache}

/-- The second cache has the entries of the first one that stay, in the same order, with its counters and limits. -/
structure Retains (c after : ResultCache) (stays : String → Entry → Bool) : Prop where
  entries : ∀ key, after.entries.get? key = (c.entries.get? key).filter (stays key)
  order : after.order = c.order.filter fun key => (c.entries.get? key).any (stays key)
  counters : after.hits = c.hits ∧ after.misses = c.misses
  limits : after.capacity = c.capacity ∧ after.timeToLive = c.timeToLive

/-- Taking out an entry leaves the others. -/
theorem Sound.retains_remove (h : Sound capacity timeToLive now c) (key : String) :
    c.Retains (c.remove key) fun other _ => other ≠ key := by
  have hstays : ∀ other ∈ c.order, (c.entries.get? other).any (fun _ => decide (other ≠ key)) = decide (other ≠ key) := by
    intro other hmem
    obtain ⟨e, he⟩ := Option.isSome_iff_exists.mp ((h.inStep.sameKeys other).mp hmem)
    rw [he, Option.any_some]
  have horder : (c.remove key).order = c.order.erase key := by
    unfold remove
    split
    · rfl
    · next hnot => exact (List.erase_of_not_mem fun hmem => hnot ((h.inStep.sameKeys key).mp hmem)).symm
  refine ⟨fun other => ?_, ?_, ?_, ?_⟩
  · rw [get?_remove]
    by_cases hkey : other = key
    · simp [hkey]
    · cases c.entries.get? other with
      | none => simp [hkey]
      | some e => simp [hkey, Option.filter]
  · rw [horder, h.inStep.distinct.erase_eq_filter, List.filter_congr hstays]
    exact List.filter_congr fun other _ => by rw [Bool.eq_iff_iff, bne_iff_ne, decide_eq_true_iff]
  · unfold remove
    split <;> exact ⟨rfl, rfl⟩
  · unfold remove
    split <;> exact ⟨rfl, rfl⟩

/-- Cleaning leaves the entries that are no older than the time to live. -/
theorem retains_cleanExpired (c : ResultCache) (now : Nat) :
    c.Retains (c.cleanExpired now).2 fun _ e => now - e.storedAt ≤ c.timeToLive := by
  have hstays : ∀ e, (!c.expired now e) = decide (now - e.storedAt ≤ c.timeToLive) := fun e => by
    rw [Bool.eq_iff_iff, Bool.not_eq_true', ← Bool.not_eq_true, expired_iff, Nat.not_lt, decide_eq_true_iff]
  have hentries : ∀ key, (c.cleanExpired now).2.entries.get? key =
      (c.entries.get? key).filter fun e => now - e.storedAt ≤ c.timeToLive := fun key => by
    rw [get?_cleanExpired, funext hstays]
  refine ⟨hentries, List.filter_congr fun key _ => ?_, ⟨rfl, rfl⟩, ⟨rfl, rfl⟩⟩
  rw [NameMap.contains, ← Option.isSome_filter]
  exact congrArg Option.isSome (hentries key)

/-- What is cleaned and what is left make up what was there. -/
theorem cleanExpired_add_size (c : ResultCache) (now : Nat) :
    (c.cleanExpired now).1 + (c.cleanExpired now).2.size = c.size :=
  Nat.sub_add_cancel (List.length_filter_le _ _)

end ResultCache

namespace Http

/-- The values that the query of the request has for a key. -/
def Request.namedKeys (r : Request) : List String :=
  ((queryPairs (targetParts r.target).2).filter fun p => p.1 = "key").map (·.2)

/-- The part of a path names this table, and the service has a valid name for it. -/
def Names (s : FilterService) (part : String) (t : TableRef) : Prop :=
  t.Valid ∧ ∃ table, pathText? part = some table ∧ s.tableRef table = t

/-- A look-up sends the statements for the columns of the table that is named and for all tables, and else nothing. -/
structure LooksUp (s : FilterService) (part : String) (sent : List Statement) : Prop where
  named : ∀ t, Names s part t → sent = [Catalog.columnsStatement t, Catalog.tablesStatement t.project t.dataset]
  unnamed : (∀ t, ¬Names s part t) → sent = []

/-- The second cache holds the schemas of the first one but that of the table that is named. -/
structure Forgets (s : FilterService) (part : String) (schemas : SchemaCache) : Prop where
  named : ∀ t, Names s part t → schemas.find? t = none
  unnamed : ∀ t, ¬Names s part t → schemas.find? t = s.schemas.find? t
  loads : schemas.loads = s.schemas.loads

/-- What an administrative request does to a service at a time: what it is answered with and the service after it. Each one
leaves the parts of the service alone that are not in its line. -/
structure Administered (s : FilterService) (now : Nat) (r : Request) (response : Response) (after : FilterService) :
    Prop where
  health : r.Calls "GET" .health → after = s
  cacheStats : r.Calls "GET" .cacheStats → after = s
  showSchema : ∀ part, r.Calls "GET" (.schema part) →
    ∃ sent, LooksUp s part sent ∧ after = { s with gateway := { s.gateway with sent := s.gateway.sent ++ sent } }
  forgetSchema : ∀ part, r.Calls "DELETE" (.schema part) → ∃ schemas, Forgets s part schemas ∧ after = { s with schemas }
  deleteEntry : r.Calls "DELETE" .cache → ∀ key, r.namedKeys = [key] → key ≠ "" →
    ∃ results, s.results.Retains results (fun other _ => other ≠ key) ∧ after = { s with results }
  clearCache : r.Calls "DELETE" .cache → r.namedKeys = [] ∨ r.namedKeys = [""] →
    after = { s with results := { s.results with entries := ∅, order := [], hits := 0, misses := 0 } }
  repeatedKey : r.Calls "DELETE" .cache → 2 ≤ r.namedKeys.length → after = s
  cleanCache : r.Calls "POST" .cacheClean →
    ∃ results, s.results.Retains results (fun _ e => now - e.storedAt ≤ s.results.timeToLive) ∧
      after = { s with results } ∧ ∃ cleaned, Json.Shows response.body ["cleaned"] cleaned ∧
        Json.Shows response.body ["stats", "size"] results.size ∧ cleaned + results.size = s.results.size

namespace Server

variable {s : FilterService} {now : Nat} {r : Request} {part : String}

/-! ### Schemas -/

/-- A part of a path names one table, or it cannot be read or is no valid name. -/
theorem names_cases (s : FilterService) (part : String) :
    (∃ table, pathText? part = some table ∧ (s.tableRef table).Valid ∧ ∀ t, Names s part t ↔ t = s.tableRef table) ∨
      (∀ t, ¬Names s part t) ∧ ∀ table, pathText? part = some table → ¬(s.tableRef table).Valid := by
  by_cases hnamed : ∃ t, Names s part t
  · obtain ⟨t, hvalid, table, htable, rfl⟩ := hnamed
    refine .inl ⟨table, htable, hvalid, fun t => ⟨?_, ?_⟩⟩
    · rintro ⟨-, other, hother, rfl⟩
      rw [Option.some.inj (htable.symm.trans hother)]
    · rintro rfl
      exact ⟨hvalid, table, htable, rfl⟩
  · refine .inr ⟨fun t ht => hnamed ⟨t, ht⟩, fun table htable hvalid => hnamed ⟨_, hvalid, table, htable, rfl⟩⟩

theorem perform_unnamed (h : ∀ table, pathText? part = some table → ¬(s.tableRef table).Valid) :
    (Task.ofPart part .introspect).perform s now = s ∧ (Task.ofPart part .forget).perform s now = s := by
  unfold Task.ofPart
  cases htable : pathText? part with
  | none => exact ⟨rfl, rfl⟩
  | some table => exact ⟨if_neg (h table htable), if_neg (h table htable)⟩

theorem looksUp_perform (s : FilterService) (now : Nat) (part : String) :
    ∃ sent, LooksUp s part sent ∧ (Task.ofPart part .introspect).perform s now =
      { s with gateway := { s.gateway with sent := s.gateway.sent ++ sent } } := by
  rcases names_cases s part with ⟨table, htable, hvalid, hnames⟩ | ⟨hno, hinvalid⟩
  · refine ⟨[Catalog.columnsStatement (s.tableRef table), Catalog.tablesStatement s.project s.dataset],
      ⟨fun t ht => ?_, fun hno => (hno _ ((hnames _).mpr rfl)).elim⟩, ?_⟩
    · rw [(hnames t).mp ht]
      rfl
    · rw [Task.ofPart, htable]
      simp only [Task.perform, if_pos hvalid, Gateway.send, List.append_assoc, List.cons_append, List.nil_append]
      rfl
  · rw [(perform_unnamed hinvalid).1]
    exact ⟨[], ⟨fun t ht => (hno t ht).elim, fun _ => rfl⟩, by rw [List.append_nil]⟩

theorem forgets_perform (s : FilterService) (now : Nat) (part : String) :
    ∃ schemas, Forgets s part schemas ∧ (Task.ofPart part .forget).perform s now = { s with schemas } := by
  rcases names_cases s part with ⟨table, htable, hvalid, hnames⟩ | ⟨hno, hinvalid⟩
  · refine ⟨(s.schemas.invalidate (s.tableRef table)).2, ⟨fun t ht => ?_, fun t ht => ?_, rfl⟩, ?_⟩
    · rw [SchemaCache.find?_invalidate, if_pos ((hnames t).mp ht)]
    · rw [SchemaCache.find?_invalidate, if_neg (mt (hnames t).mpr ht)]
    · rw [Task.ofPart, htable]
      exact if_pos hvalid
  · rw [(perform_unnamed hinvalid).2]
    exact ⟨s.schemas, ⟨fun t ht => (hno t ht).elim, fun _ _ => rfl, rfl⟩, rfl⟩

/-! ### Results -/

theorem ofDeletion_eq (r : Request) : Task.ofDeletion (targetParts r.target).2 = match r.namedKeys with
    | [] => .clear
    | [key] => if key = "" then .clear else .deleteEntry key
    | _ => .nothing := by
  unfold Task.ofDeletion Request.namedKeys
  generalize ((queryPairs (targetParts r.target).2).filter fun p => p.1 = "key").map (·.2) = keys
  rcases keys with _ | ⟨key, _ | ⟨other, rest⟩⟩
  · rfl
  · rfl
  · rfl

theorem ofDeletion_of_key {key : String} (h : r.namedKeys = [key]) (hkey : key ≠ "") :
    Task.ofDeletion (targetParts r.target).2 = .deleteEntry key := by
  rw [ofDeletion_eq, h]
  exact if_neg hkey

theorem ofDeletion_of_no_key (h : r.namedKeys = [] ∨ r.namedKeys = [""]) :
    Task.ofDeletion (targetParts r.target).2 = .clear := by
  rw [ofDeletion_eq]
  rcases h with h | h
  · rw [h]
  · rw [h]
    exact if_pos rfl

theorem ofDeletion_of_repeated_key (h : 2 ≤ r.namedKeys.length) :
    Task.ofDeletion (targetParts r.target).2 = .nothing := by
  rw [ofDeletion_eq]
  match hnamed : r.namedKeys with
  | [] | [_] => simp [hnamed] at h
  | _ :: _ :: _ => rfl

theorem administered {capacity timeToLive : Nat} (h : s.results.Sound capacity timeToLive now)
    (hcapacity : capacity < UInt64.size) (r : Request) :
    Administered s now r (handle s now r).1 (handle s now r).2 where
  health hcalls := handle_snd_of_calls hcalls (by decide) (by decide)
  cacheStats hcalls := handle_snd_of_calls hcalls (by decide) (by decide)
  showSchema part hcalls := by
    rw [handle_snd_of_calls hcalls (by decide) (by decide)]
    exact looksUp_perform s now part
  forgetSchema part hcalls := by
    rw [handle_snd_of_calls hcalls (by decide) (by decide)]
    exact forgets_perform s now part
  deleteEntry hcalls key hnamed hkey := by
    rw [handle_snd_of_calls hcalls (by decide) (by decide)]
    refine ⟨_, h.retains_remove key, ?_⟩
    exact congrArg (Task.perform s now) (ofDeletion_of_key hnamed hkey)
  clearCache hcalls hnamed := by
    rw [handle_snd_of_calls hcalls (by decide) (by decide)]
    exact congrArg (Task.perform s now) (ofDeletion_of_no_key hnamed)
  repeatedKey hcalls hnamed := by
    rw [handle_snd_of_calls hcalls (by decide) (by decide)]
    exact congrArg (Task.perform s now) (ofDeletion_of_repeated_key hnamed)
  cleanCache hcalls := by
    have hsum := s.results.cleanExpired_add_size now
    have hsize := h.size_le
    rw [handle_of_calls hcalls (by decide) (by decide) rfl]
    exact ⟨_, s.results.retains_cleanExpired now, rfl, _, shows_natJson (by omega) rfl, shows_natJson (by omega) rfl, hsum⟩

/-- Whatever happened to a server, an administrative request changes what it names and nothing else. -/
theorem administration_changes_what_it_names (settings : Settings) (warehouse : Warehouse) (start : Nat)
    (es : List SharedEvent) (r : Request) :
    let s := reached settings warehouse start es
    Administered s.service s.now r (handle s.service s.now r).1 (handle s.service s.now r).2 := by
  have hlt := settings.maxEntries.toNat_lt
  refine administered (sound_reached settings warehouse start es) ?_ r
  simp only [UInt64.size]
  omega

end Server

end Http

end Audience
