import Audience.Proofs.Results.Journal

/-!
A cache of results keeps step with a journal. The map and the queue of the cache are two views of one list of
records: the queue has its keys in order, and the map has the rest of each record under its key
(`ResultCache.Represents`). Every operation keeps this, and both give the same answer.

So a run of a cache answers as a journal does, its queue holds each key of the map once, from the oldest entry
to the newest, and an entry that is evicted before it expires leaves no expired one behind.
-/

namespace Audience

/-- What a cache stores of a record. -/
def Journal.Record.entry (r : Journal.Record) : ResultCache.Entry := ⟨r.rows, r.storedAt⟩

namespace ResultCache

/-- The map and the queue of the cache are views of the journal's records. -/
structure Represents (c : ResultCache) (j : Journal) : Prop where
  capacity : c.capacity = j.capacity
  timeToLive : c.timeToLive = j.timeToLive
  order : c.order = j.records.map (·.key)
  entries : ∀ key, c.entries.get? key = (j.find? key).map (·.entry)
  hits : c.hits = j.hits
  misses : c.misses = j.misses

theorem represents_new (maxEntries timeToLive : Nat) :
    Represents (new maxEntries timeToLive) (Journal.new maxEntries timeToLive) where
  capacity := rfl
  timeToLive := rfl
  order := rfl
  entries := fun _ => rfl
  hits := rfl
  misses := rfl

namespace Represents

variable {c : ResultCache} {j : Journal} {key : String} {rows : List Row} {now : Nat}

theorem contains (h : Represents c j) (key : String) : c.entries.contains key = (j.find? key).isSome := by
  simp [NameMap.contains, h.entries]

theorem expired (h : Represents c j) (now : Nat) (r : Journal.Record) :
    c.expired now r.entry = !j.fresh now r := by
  rw [Bool.eq_iff_iff, expired_iff, h.timeToLive]
  simp only [Journal.Record.entry, Journal.fresh, Bool.not_eq_true', decide_eq_false_iff_not]
  omega

/-- The map has as many entries as there are records: each list of keys is without duplicates. -/
theorem size (h : Represents c j) (hs : Journal.Sound now j) : c.size = j.records.length := by
  have hperm : c.entries.names.Perm (j.records.map (·.key)) := by
    refine (List.perm_ext_iff_of_nodup c.entries.nodup_names hs.distinct).mpr fun key => ?_
    rw [NameMap.mem_names_iff, h.entries, Option.isSome_map, Journal.find?_isSome_iff, List.mem_map]
  have hlength := hperm.length_eq
  simp only [NameMap.names, List.length_map] at hlength
  exact hlength

theorem find? (h : Represents c j) (key : String) (now : Nat) :
    c.find? key now = ((j.find? key).filter (j.fresh now)).map (·.rows) := by
  unfold ResultCache.find?
  rw [h.entries]
  cases hfind : j.find? key with
  | none => rfl
  | some r =>
    simp only [Option.map_some, h.expired, Option.filter]
    cases j.fresh now r <;> rfl

/-! ### The operations -/

theorem get (h : Represents c j) :
    (c.get key now).1 = (j.get key now).1 ∧ Represents (c.get key now).2 (j.get key now).2 := by
  unfold ResultCache.get Journal.get
  rw [h.find?]
  cases (j.find? key).filter (j.fresh now) with
  | some r =>
    refine ⟨rfl, { h with hits := ?_, misses := ?_ }⟩
    · simp [h.hits, Journal.hits]
    · simp [h.misses, Journal.misses]
  | none =>
    refine ⟨rfl, { h with hits := ?_, misses := ?_ }⟩
    · simp [h.hits, Journal.hits]
    · simp [h.misses, Journal.misses]

/-- Without the entry under a key, the cache represents the records under other keys. -/
theorem remove (h : Represents c j) (hs : Journal.Sound now j) (key : String) :
    Represents (c.remove key) { j with records := j.others key } := by
  have hentries : ∀ other, (c.remove key).entries.get? other =
      (({ j with records := j.others key } : Journal).find? other).map (·.entry) := by
    intro other
    have hfilter : ({ j with records := j.others key } : Journal).find? other =
        (j.find? other).filter fun r => r.key ≠ key := Journal.find?_filter hs.distinct _ _
    rw [get?_remove, h.entries, hfilter]
    cases hfind : j.find? other with
    | none => simp
    | some r =>
      have hkey : r.key = other := ((Journal.find?_key_eq_some_iff hs.distinct).mp hfind).2
      by_cases ho : other = key
      · simp [ho, hkey, Option.filter]
      · simp [ho, hkey, Option.filter]
  have horder : (c.remove key).order = (j.others key).map (·.key) := by
    have herase : c.order.erase key = (j.others key).map (·.key) := by
      rw [h.order, hs.distinct.erase_eq_filter, List.filter_map]
      congr 1
      exact List.filter_congr fun r _ => by by_cases hkey : r.key = key <;> simp [hkey]
    unfold ResultCache.remove
    split
    · exact herase
    · next hnot =>
      rw [h.contains, Bool.not_eq_true, Option.isSome_eq_false_iff, Option.isNone_iff_eq_none] at hnot
      rw [h.order, Journal.others_eq_records (Journal.find?_eq_none_iff.mp hnot)]
  unfold ResultCache.remove at hentries horder ⊢
  split
  · next hc =>
    rw [if_pos hc] at hentries horder
    exact { h with order := horder, entries := hentries }
  · next hc =>
    rw [if_neg hc] at hentries horder
    exact { h with order := horder, entries := hentries }

theorem evictOldest (h : Represents c j) (hs : Journal.Sound now j) :
    Represents c.evictOldest { j with records := j.records.tail } := by
  unfold ResultCache.evictOldest
  cases hrecords : j.records with
  | nil =>
    have horder : c.order = [] := by rw [h.order, hrecords]; rfl
    rw [horder]
    have hj : ({ j with records := [] } : Journal) = j := by rw [← hrecords]
    simp only [List.tail_nil, hj]
    exact h
  | cons r rest =>
    have horder : c.order = r.key :: rest.map (·.key) := by rw [h.order, hrecords]; rfl
    have hdistinct := hs.distinct
    rw [hrecords] at hdistinct
    obtain ⟨hr, -⟩ := List.nodup_cons.mp hdistinct
    rw [horder]
    refine { h with order := rfl, entries := fun other => ?_ }
    rw [NameMap.get?_erase, h.entries]
    simp only [Journal.find?, hrecords, List.tail_cons]
    by_cases ho : other = r.key
    · have hnone : (rest.find? fun x => x.key = other) = none := by
        rw [List.find?_eq_none]
        intro x hx hxk
        have hxk : x.key = r.key := (of_decide_eq_true hxk).trans ho
        exact hr (List.mem_map.mpr ⟨x, hx, hxk⟩)
      rw [if_pos ho, hnone]
      rfl
    · rw [if_neg ho, List.find?_cons_of_neg (by simpa using Ne.symm ho)]

theorem makeRoom (h : Represents c j) (hs : Journal.Sound now j) (key : String) :
    Represents (c.makeRoom key) { j with records := j.kept key } := by
  unfold ResultCache.makeRoom Journal.kept
  rw [h.contains, h.size hs]
  split
  · exact h.remove hs key
  · have hfull : c.policy.isFull j.records.length = decide (j.capacity ≤ j.records.length) := by
      simp [policy, RetentionPolicy.bounded, RetentionPolicy.isFull, h.capacity]
    rw [hfull]
    by_cases hle : j.capacity ≤ j.records.length
    · simp only [hle, decide_true, if_true]
      exact h.evictOldest hs
    · simp only [hle, decide_false, Bool.false_eq_true, if_false]
      exact h

theorem put (h : Represents c j) (hs : Journal.Sound now j) :
    Represents (c.put key rows now) (j.put key rows now) := by
  have hroom := h.makeRoom hs key
  refine { hroom with order := ?_, entries := fun other => ?_ }
  · simp [ResultCache.put, Journal.put, hroom.order]
  · rw [get?_put, hroom.entries]
    simp only [Journal.find?, Journal.put, List.find?_append]
    by_cases ho : other = key
    · have hnone : ((j.kept key).find? fun x => x.key = other) = none := by
        rw [List.find?_eq_none]
        intro x hx
        simpa [ho] using Journal.key_ne_of_mem_kept hx
      simp [ho, ho ▸ hnone, Journal.Record.entry]
    · simp [ho, Ne.symm ho]

theorem delete (h : Represents c j) (hs : Journal.Sound now j) :
    (c.delete key).1 = (j.delete key).1 ∧ Represents (c.delete key).2 (j.delete key).2 :=
  ⟨h.contains key, h.remove hs key⟩

theorem clear (h : Represents c j) : Represents c.clear j.clear where
  capacity := h.capacity
  timeToLive := h.timeToLive
  order := rfl
  entries := fun _ => rfl
  hits := rfl
  misses := rfl

theorem cleanExpired (h : Represents c j) (hs : Journal.Sound now j) :
    (c.cleanExpired now).1 = (j.clean now).1 ∧ Represents (c.cleanExpired now).2 (j.clean now).2 := by
  have hentries : ∀ key, (c.cleanExpired now).2.entries.get? key = ((j.clean now).2.find? key).map (·.entry) := by
    intro key
    have hfilter : (j.clean now).2.find? key = (j.find? key).filter (j.fresh now) := Journal.find?_swept hs key
    rw [get?_cleanExpired, h.entries, hfilter]
    cases j.find? key with
    | none => rfl
    | some r => cases hr : j.fresh now r <;> simp [Option.filter, h.expired, hr]
  have horder : (c.cleanExpired now).2.order = (j.clean now).2.records.map (·.key) := by
    have hfilter : (c.cleanExpired now).2.order =
        c.order.filter (c.cleanExpired now).2.entries.contains := rfl
    rw [hfilter, h.order, List.filter_map]
    congr 1
    refine List.filter_congr fun r hr => ?_
    have hfind : j.find? r.key = some r := (Journal.find?_key_eq_some_iff hs.distinct).mpr ⟨hr, rfl⟩
    have hswept : (j.clean now).2.find? r.key = (j.find? r.key).filter (j.fresh now) := Journal.find?_swept hs r.key
    rw [Function.comp_apply, NameMap.contains, hentries, hswept, hfind]
    cases hf : j.fresh now r <;> simp [Option.filter, hf]
  have hrep : Represents (c.cleanExpired now).2 (j.clean now).2 :=
    { h with order := horder, entries := hentries }
  have hcount : (c.cleanExpired now).1 = c.size - (c.cleanExpired now).2.size := rfl
  have hs' : Journal.Sound now (j.clean now).2 := hs.swept
  refine ⟨?_, hrep⟩
  rw [hcount, h.size hs, hrep.size hs']
  have hsplit := List.length_eq_length_filter_add (l := j.records) (j.fresh now)
  simp only [Journal.clean]
  omega

theorem stats (h : Represents c j) (hs : Journal.Sound now j) : c.stats = j.stats := by
  simp [ResultCache.stats, Journal.stats, h.size hs, h.capacity, h.hits, h.misses, h.timeToLive]

/-- An operation has the same answer on both sides. -/
theorem step (h : Represents c j) (hs : Journal.Sound now j) (op : CacheOperation) :
    (c.step (now, op)).1 = (j.step (now, op)).1 ∧ Represents (c.step (now, op)).2 (j.step (now, op)).2 := by
  cases op with
  | put key rows => exact ⟨rfl, h.put hs⟩
  | get key => exact ⟨congrArg CacheAnswer.found h.get.1, h.get.2⟩
  | delete key => exact ⟨congrArg CacheAnswer.deleted (h.delete hs).1, (h.delete hs).2⟩
  | clear => exact ⟨rfl, h.clear⟩
  | clean => exact ⟨congrArg CacheAnswer.cleaned (h.cleanExpired hs).1, (h.cleanExpired hs).2⟩
  | size => exact ⟨congrArg CacheAnswer.size (h.size hs), h⟩
  | stats => exact ⟨congrArg CacheAnswer.stats (h.stats hs), h⟩

end Represents

/-! ### Runs -/

/-- The queue holds each key of the map once, from the oldest entry to the newest, and at most so many. -/
structure InStep (most : Nat) (c : ResultCache) : Prop where
  distinct : c.order.Nodup
  sameKeys : ∀ key, key ∈ c.order ↔ c.entries.contains key = true
  ascending : c.order.Pairwise fun a b => ∀ e f, c.entries.get? a = some e → c.entries.get? b = some f →
    e.storedAt ≤ f.storedAt
  within : c.order.length ≤ most

/-- Storing rows evicts no entry that is not expired while an expired one is held. -/
def SparesFresh (c : ResultCache) (key : String) (rows : List Row) (now : Nat) : Prop :=
  ∀ other e, other ≠ key → c.entries.get? other = some e → c.expired now e = false →
    (c.put key rows now).entries.get? other = none → ∀ k f, c.entries.get? k = some f → c.expired now f = false

namespace Represents

variable {c : ResultCache} {j : Journal} {now : Nat}

theorem exists_record (h : Represents c j) (hs : Journal.Sound now j) {key : String} {e : Entry}
    (he : c.entries.get? key = some e) : ∃ r ∈ j.records, r.key = key ∧ r.entry = e := by
  rw [h.entries, Option.map_eq_some_iff] at he
  obtain ⟨r, hr, rfl⟩ := he
  obtain ⟨hmem, hkey⟩ := (Journal.find?_key_eq_some_iff hs.distinct).mp hr
  exact ⟨r, hmem, hkey, rfl⟩

theorem inStep (h : Represents c j) (hs : Journal.Sound now j) : InStep j.capacity c where
  distinct := h.order ▸ hs.distinct
  sameKeys := fun key => by
    rw [h.order, h.contains, Journal.find?_isSome_iff, List.mem_map]
  ascending := by
    rw [h.order, List.pairwise_map]
    refine hs.ascending.imp_of_mem fun {a b} ha hb hle e f he hf => ?_
    have hentry : ∀ {r : Journal.Record} {e : Entry}, r ∈ j.records → c.entries.get? r.key = some e →
        e = r.entry := by
      intro r e hr he
      have hfind : j.find? r.key = some r := (Journal.find?_key_eq_some_iff hs.distinct).mpr ⟨hr, rfl⟩
      rw [h.entries, hfind] at he
      exact (Option.some.inj he).symm
    rw [hentry ha he, hentry hb hf]
    exact hle
  within := by
    rw [h.order, List.length_map]
    exact hs.within

/-- The only entry that can leave for another key is the oldest one, and behind one that is fresh all are. -/
theorem sparesFresh (h : Represents c j) (hs : Journal.Sound now j) (key : String) (rows : List Row) :
    SparesFresh c key rows now := by
  intro other e hne he hfresh hgone k f hf
  obtain ⟨r, hr, hkey, rfl⟩ := h.exists_record hs he
  rw [h.expired, Bool.not_eq_false'] at hfresh
  have hleft : r ∉ j.kept key := by
    intro hmem
    rw [(h.put hs).entries, Option.map_eq_none_iff, Journal.find?_eq_none_iff] at hgone
    exact hgone r (List.mem_append_left _ hmem) hkey
  have hhead : ∃ rest, j.records = r :: rest := by
    unfold Journal.kept at hleft
    split at hleft
    · exact absurd (Journal.mem_others.mpr ⟨hr, hkey.symm ▸ hne⟩) hleft
    · split at hleft
      · cases hrecords : j.records with
        | nil => rw [hrecords] at hr; cases hr
        | cons x rest =>
          rw [hrecords] at hr hleft
          rcases List.mem_cons.mp hr with rfl | hr
          · exact ⟨rest, rfl⟩
          · exact absurd hr hleft
      · exact absurd hr hleft
  obtain ⟨rest, hrecords⟩ := hhead
  obtain ⟨x, hx, -, rfl⟩ := h.exists_record hs hf
  rw [h.expired, Bool.not_eq_false']
  rw [← Journal.swept_eq_self hs hrecords hfresh] at hx
  exact (Journal.mem_swept.mp hx).2

end Represents

/-- Over a run, a new cache answers as a new journal does and goes on representing it. -/
theorem represents_run (maxEntries timeToLive : Nat) {es : List (Nat × CacheOperation)}
    (hes : Run.Chronological es) :
    Run.replies step (new maxEntries timeToLive) es =
        Run.replies Journal.step (Journal.new maxEntries timeToLive) es ∧
      ∀ now, (∀ e ∈ es, e.1 ≤ now) →
        Represents (Run.after step (new maxEntries timeToLive) es)
            (Run.after Journal.step (Journal.new maxEntries timeToLive) es) ∧
          Journal.Sound now (Run.after Journal.step (Journal.new maxEntries timeToLive) es) := by
  have hrun := Run.simulation (R := fun now c j => Represents c j ∧ Journal.Sound now j)
    (fun hle h => ⟨h.1, h.2.lasts hle⟩)
    (fun op h => ⟨(h.1.step h.2 op).1, (h.1.step h.2 op).2, h.2.step op⟩)
    ⟨represents_new maxEntries timeToLive, Journal.sound_new maxEntries timeToLive 0⟩ hes.since
  exact ⟨hrun.1, fun now hall => hrun.2 now (Nat.zero_le _) hall⟩

/-- Over a run, a cache answers as a journal does, has its figures, and holds each key once, oldest entry first,
within its capacity. No entry that is not expired is evicted while an expired one is held. -/
theorem run_keeps_step_with_journal (maxEntries timeToLive : Nat) {es : List (Nat × CacheOperation)}
    (hes : Run.Chronological es) :
    Run.replies step (new maxEntries timeToLive) es =
        Run.replies Journal.step (Journal.new maxEntries timeToLive) es ∧
      (∀ done, done <+: es →
        InStep (max maxEntries 1) (Run.after step (new maxEntries timeToLive) done) ∧
          (Run.after step (new maxEntries timeToLive) done).stats =
            (Run.after Journal.step (Journal.new maxEntries timeToLive) done).stats) ∧
      ∀ done now key rows rest, es = done ++ (now, .put key rows) :: rest →
        SparesFresh (Run.after step (new maxEntries timeToLive) done) key rows now := by
  refine ⟨(represents_run maxEntries timeToLive hes).1, ?_, ?_⟩
  · rintro done ⟨rest, rfl⟩
    obtain ⟨hdone, -⟩ := hes.of_append
    obtain ⟨now, hall⟩ := Run.exists_time done
    obtain ⟨hrep, hsound⟩ := (represents_run maxEntries timeToLive hdone).2 now hall
    have hcapacity : (Run.after Journal.step (Journal.new maxEntries timeToLive) done).capacity = max maxEntries 1 :=
      Run.after_induction (P := fun j : Journal => j.capacity = max maxEntries 1) Journal.step
        (fun j e h => (j.step_capacity e).trans h) rfl done
    exact ⟨hcapacity ▸ hrep.inStep hsound, hrep.stats hsound⟩
  · rintro done now key rows rest rfl
    obtain ⟨hdone, -, hle⟩ := hes.of_append
    obtain ⟨hrep, hsound⟩ := (represents_run maxEntries timeToLive hdone).2 now fun e he =>
      hle e he _ List.mem_cons_self
    exact hrep.sparesFresh hsound key rows

/-- With room for one (a capacity of zero counts as one), `a` is expired at 11 and makes room for `b`. -/
theorem run_keeps_step_with_journal_of_zero :
    @Run.Chronological CacheOperation [(0, .put "a" []), (11, .get "a"), (11, .put "b" []), (12, .delete "a"), (12, .size)] ∧
      Run.replies step (new 0 10)
          [(0, .put "a" []), (11, .get "a"), (11, .put "b" []), (12, .delete "a"), (12, .size)] =
        Run.replies Journal.step (Journal.new 0 10)
          [(0, .put "a" []), (11, .get "a"), (11, .put "b" []), (12, .delete "a"), (12, .size)] :=
  ⟨by decide, (run_keeps_step_with_journal 0 10 (by decide)).1⟩

end ResultCache

end Audience
