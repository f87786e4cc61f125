import Audience.Proofs.Results.Refinement
import Mathlib.Data.Finset.Card

/-!
How long a cache of results holds what is stored. A record moves towards the front of the journal only as records
are stored behind it, each under a key of its own, and it leaves from the front only when the journal is full. So
it stays while fewer other keys are stored than there is room for (`Journal.HeldBefore`). Where nothing is taken
out by hand or swept, every key that is stored after a record stays behind it, and the record is held no longer
than that (`Journal.Traces`).
-/

namespace Audience

namespace CacheOperation

/-- The key that rows are stored under. -/
def storedKey? : CacheOperation → Option String
  | put key _ => some key
  | _ => none

/-- The key that is read. -/
def readKey? : CacheOperation → Option String
  | get key => some key
  | _ => none

/-- The operation does not take the key out by hand. -/
def Spares (key : String) (op : CacheOperation) : Prop := op ≠ delete key ∧ op ≠ clear

theorem spares_of_isSome {op : CacheOperation} (h : op.storedKey?.isSome ∨ op.readKey?.isSome) (key : String) :
    op.Spares key := by
  constructor <;> rintro rfl <;> simp [storedKey?, readKey?] at h

end CacheOperation

/-- The keys that rows are stored under, in order. -/
def storedKeys (es : List (Nat × CacheOperation)) : List String := es.filterMap fun e => e.2.storedKey?

/-- The other keys that rows are stored under, each once. -/
def othersStored (key : String) (es : List (Nat × CacheOperation)) : Finset String :=
  (storedKeys es).toFinset.erase key

/-- The operations other than reads. -/
def withoutReads (es : List (Nat × CacheOperation)) : List (Nat × CacheOperation) :=
  es.filter fun e => e.2.readKey?.isNone

/-- What was stored last under a key, at which time, and the operations since. -/
structure LastStored (es : List (Nat × CacheOperation)) (key : String) (rows : List Row) (time : Nat)
    (since : List (Nat × CacheOperation)) : Prop where
  stored : ∃ before, es = before ++ (time, .put key rows) :: since
  last : key ∉ storedKeys since

variable {es since : List (Nat × CacheOperation)} {e : Nat × CacheOperation} {op : CacheOperation}
  {key other : String} {rows : List Row} {now time : Nat}

@[simp] theorem storedKeys_append (es fs : List (Nat × CacheOperation)) :
    storedKeys (es ++ fs) = storedKeys es ++ storedKeys fs := List.filterMap_append

theorem storedKeys_singleton (e : Nat × CacheOperation) : storedKeys [e] = e.2.storedKey?.toList := by
  cases h : e.2.storedKey? <;> simp [storedKeys, h]

theorem LastStored.mem_of_mem (h : LastStored es key rows time since) (he : e ∈ since) : e ∈ es := by
  obtain ⟨before, rfl⟩ := h.stored
  exact List.mem_append_right _ (List.mem_cons_of_mem _ he)

theorem LastStored.append (h : LastStored es key rows time since) (he : e.2.storedKey? ≠ some key) :
    LastStored (es ++ [e]) key rows time (since ++ [e]) where
  stored := by
    obtain ⟨before, rfl⟩ := h.stored
    exact ⟨before, by simp⟩
  last := by
    rw [storedKeys_append, storedKeys_singleton, List.mem_append, not_or]
    exact ⟨h.last, by simpa using he⟩

namespace Journal

variable {j k : Journal} {r : Record} {keys : Finset String}

/-! ### Records that stay -/

/-- The record is held, and what stands behind it is under these keys. -/
def HeldBefore (j : Journal) (r : Record) (keys : Finset String) : Prop :=
  ∃ older newer, j.records = older ++ r :: newer ∧ ∀ x ∈ newer, x.key ∈ keys

theorem heldBefore_put (j : Journal) (key : String) (rows : List Row) (now : Nat) (keys : Finset String) :
    HeldBefore (j.put key rows now) ⟨key, rows, now⟩ keys :=
  ⟨j.kept key, [], rfl, fun _ hx => by cases hx⟩

/-- In a full journal, the record at the front has as many keys behind it as there is room for others. -/
theorem capacity_le_card (h : Sound now j) (hfull : j.capacity ≤ j.records.length) {newer : List Record}
    (hrecords : j.records = r :: newer) (hnewer : ∀ x ∈ newer, x.key ∈ keys) (hnone : j.find? key = none)
    (hkey : key ∈ keys) : j.capacity ≤ keys.card := by
  have hdistinct := h.distinct
  rw [hrecords, List.map_cons, List.nodup_cons] at hdistinct
  have hcons : (key :: newer.map (·.key)).Nodup := by
    refine List.nodup_cons.mpr ⟨fun hmem => ?_, hdistinct.2⟩
    obtain ⟨x, hx, hxkey⟩ := List.mem_map.mp hmem
    exact find?_eq_none_iff.mp hnone x (hrecords ▸ List.mem_cons_of_mem _ hx) hxkey
  have hsub : (key :: newer.map (·.key)).toFinset ⊆ keys := by
    intro a ha
    rcases List.mem_cons.mp (List.mem_toFinset.mp ha) with rfl | ha
    · exact hkey
    · obtain ⟨x, hx, rfl⟩ := List.mem_map.mp ha
      exact hnewer x hx
  have hcard := Finset.card_le_card hsub
  rw [List.toFinset_card_of_nodup hcons, List.length_cons, List.length_map] at hcard
  rw [hrecords, List.length_cons] at hfull
  omega

namespace HeldBefore

theorem mem (h : HeldBefore j r keys) : r ∈ j.records := by
  obtain ⟨older, newer, hrecords, -⟩ := h
  rw [hrecords]
  exact List.mem_append_right _ List.mem_cons_self

theorem of_records (h : HeldBefore j r keys) (hrecords : k.records = j.records) : HeldBefore k r keys := by
  obtain ⟨older, newer, heq, hnewer⟩ := h
  exact ⟨older, newer, hrecords.trans heq, hnewer⟩

theorem filter (h : HeldBefore j r keys) {p : Record → Bool} (hp : p r = true) :
    HeldBefore { j with records := j.records.filter p } r keys := by
  obtain ⟨older, newer, hrecords, hnewer⟩ := h
  refine ⟨older.filter p, newer.filter p, ?_, fun x hx => hnewer x (List.mem_of_mem_filter hx)⟩
  rw [hrecords, List.filter_append, List.filter_cons_of_pos hp]

/-- The record does not leave for another key while there is room for it and all of the keys. -/
theorem kept (h : HeldBefore j r keys) (hs : Sound now j) (hne : key ≠ r.key) (hkey : key ∈ keys)
    (hroom : keys.card < j.capacity) : HeldBefore { j with records := j.kept key } r keys := by
  unfold Journal.kept
  split
  · exact h.filter (by simpa using hne.symm)
  · next hnone =>
    split
    · next hfull =>
      obtain ⟨older, newer, hrecords, hnewer⟩ := h
      cases older with
      | nil =>
        have hle := capacity_le_card hs hfull hrecords hnewer (Option.not_isSome_iff_eq_none.mp hnone) hkey
        omega
      | cons x older => exact ⟨older, newer, by simp [hrecords], hnewer⟩
    · exact h

theorem put (h : HeldBefore j r keys) (hs : Sound now j) (hne : key ≠ r.key) (hkey : key ∈ keys)
    (hroom : keys.card < j.capacity) : HeldBefore (j.put key rows now) r keys := by
  obtain ⟨older, newer, hkept, hnewer⟩ := h.kept hs hne hkey hroom
  refine ⟨older, newer ++ [⟨key, rows, now⟩], ?_, fun x hx => ?_⟩
  · simpa [Journal.put] using congrArg (· ++ [(⟨key, rows, now⟩ : Record)]) hkept
  · rcases List.mem_append.mp hx with hx | hx
    · exact hnewer x hx
    · obtain rfl := List.mem_singleton.mp hx
      exact hkey

/-- A record stays through an operation that does not take it out by hand, store over it or find it too old. -/
theorem step (h : HeldBefore j r keys) (hs : Sound now j) (hroom : keys.card < j.capacity)
    (hspares : op.Spares r.key) (hstored : ∀ key, op.storedKey? = some key → key ≠ r.key ∧ key ∈ keys)
    (hfresh : op = .clean → j.fresh now r = true) : HeldBefore (j.step (now, op)).2 r keys := by
  cases op with
  | put key rows =>
    obtain ⟨hne, hkey⟩ := hstored key rfl
    exact h.put hs hne hkey hroom
  | get key => exact h.of_records (j.get_records key now)
  | delete key =>
    have hne : r.key ≠ key := fun heq => hspares.1 (congrArg _ heq.symm)
    exact h.filter (by simpa using hne)
  | clear => exact absurd rfl hspares.2
  | clean => exact h.filter (hfresh rfl)
  | size => exact h
  | stats => exact h

/-- A record stays through a run in which fewer other keys are stored than there is room for. -/
theorem run (h : HeldBefore j r keys) (hs : Sound now j) (hsince : Run.Since now since)
    (hroom : keys.card < j.capacity) (hspares : ∀ e ∈ since, e.2.Spares r.key)
    (hstored : ∀ key ∈ storedKeys since, key ≠ r.key ∧ key ∈ keys)
    (hfresh : ∀ e ∈ since, e.2 = .clean → j.fresh e.1 r = true) :
    HeldBefore (Run.after Journal.step j since) r keys := by
  induction since generalizing now j with
  | nil => exact h
  | cons e since ih =>
    obtain ⟨time, op⟩ := e
    obtain ⟨hle, hsince⟩ := Run.since_cons hsince
    have hs := hs.lasts hle
    have hop : ∀ key, op.storedKey? = some key → key ≠ r.key ∧ key ∈ keys := fun key hkey =>
      hstored key (List.mem_filterMap.mpr ⟨_, List.mem_cons_self, hkey⟩)
    have hlimits : (j.step (time, op)).2.timeToLive = j.timeToLive := j.step_timeToLive (time, op)
    refine ih (h.step hs hroom (hspares _ List.mem_cons_self) hop (hfresh _ List.mem_cons_self)) (hs.step op) hsince
      ?_ (fun e he => hspares e (List.mem_cons_of_mem _ he)) (fun key hkey => hstored key ?_) fun e he hclean => ?_
    · rwa [step_capacity]
    · exact (List.sublist_cons_self _ _).filterMap _ |>.subset hkey
    · have hfresh := hfresh e (List.mem_cons_of_mem _ he) hclean
      rw [fresh_iff] at hfresh ⊢
      rwa [hlimits]

end HeldBefore

/-- What was stored last is held, with fewer other keys stored since than there is room for. -/
theorem heldBefore_of_lastStored (maxEntries timeToLive : Nat) (hes : Run.Chronological es)
    (h : LastStored es key rows time since) (hroom : (othersStored key since).card < max maxEntries 1)
    (hspares : ∀ e ∈ since, e.2.Spares key) (hfresh : ∀ e ∈ since, e.2 = .clean → e.1 - time ≤ timeToLive) :
    HeldBefore (Run.after step (new maxEntries timeToLive) es) ⟨key, rows, time⟩ (othersStored key since) := by
  obtain ⟨before, rfl⟩ := h.stored
  obtain ⟨hbefore, hrest, hle⟩ := hes.of_append
  let start := Run.after step (new maxEntries timeToLive) before
  have hsound : Sound time (start.put key rows time) :=
    ((ResultCache.represents_run maxEntries timeToLive hbefore).2 time fun e he =>
      hle e he _ List.mem_cons_self).2.put
  have hcapacity : (start.put key rows time).capacity = max maxEntries 1 := capacity_run maxEntries timeToLive before
  have hlimit : (start.put key rows time).timeToLive = timeToLive := timeToLive_run maxEntries timeToLive before
  rw [Run.after_append]
  refine (heldBefore_put start key rows time _).run hsound (Run.since_cons hrest.since).2 ?_ hspares
    (fun other hother => ?_) fun e he hclean => ?_
  · rwa [hcapacity]
  · have hne : other ≠ key := fun heq => h.last (heq ▸ hother)
    exact ⟨hne, Finset.mem_erase.mpr ⟨hne, List.mem_toFinset.mpr hother⟩⟩
  · have hage := hfresh e he hclean
    rw [fresh_iff, hlimit]
    simp only
    omega

/-! ### Records that leave -/

/-- Every record is what was stored last under its key, and each key that was stored since is behind it. -/
def Traces (es : List (Nat × CacheOperation)) (j : Journal) : Prop :=
  ∀ older r newer, j.records = older ++ r :: newer →
    ∃ since, LastStored es r.key r.rows r.storedAt since ∧ ∀ key ∈ storedKeys since, ∃ x ∈ newer, x.key = key

/-- What stays when a key is stored stood in the same order before, with that key's record at most in between. -/
theorem exists_append_of_kept {older newer : List Record} (h : j.kept key = older ++ r :: newer) :
    ∃ older' newer', j.records = older' ++ r :: newer' ∧ ∀ x ∈ newer', x.key ≠ key → x ∈ newer := by
  unfold kept at h
  split at h
  · obtain ⟨front, back, hrecords, -, hback⟩ := List.filter_eq_append_iff.mp h
    obtain ⟨gone, newer', rfl, -, -, rfl⟩ := List.filter_eq_cons_iff.mp hback
    refine ⟨front ++ gone, newer', by rw [hrecords, List.append_assoc], fun x hx hkey => ?_⟩
    exact List.mem_filter.mpr ⟨hx, by simpa using hkey⟩
  · split at h
    · cases hrecords : j.records with
      | nil => simp [hrecords] at h
      | cons first rest =>
        rw [hrecords, List.tail_cons] at h
        exact ⟨first :: older, newer, by rw [h, List.cons_append], fun x hx _ => hx⟩
    · exact ⟨older, newer, h, fun x hx _ => hx⟩

namespace Traces

theorem put (h : Traces es j) (key : String) (rows : List Row) (now : Nat) :
    Traces (es ++ [(now, .put key rows)]) (j.put key rows now) := by
  intro older r newer hrecords
  rcases List.eq_nil_or_concat newer with rfl | ⟨behind, last, rfl⟩
  · obtain ⟨-, hr⟩ := List.append_inj' hrecords rfl
    obtain rfl := (List.cons.inj hr).1
    exact ⟨[], ⟨⟨es, rfl⟩, List.not_mem_nil⟩, fun _ hkey => by cases hkey⟩
  · rw [List.concat_eq_append] at hrecords ⊢
    have hsplit : j.kept key ++ [⟨key, rows, now⟩] = (older ++ r :: behind) ++ [last] := by
      simpa [Journal.put] using hrecords
    obtain ⟨hkept, hlast⟩ := List.append_inj' hsplit rfl
    obtain rfl := (List.cons.inj hlast).1
    have hne : r.key ≠ key := key_ne_of_mem_kept (hkept ▸ List.mem_append_right _ List.mem_cons_self)
    obtain ⟨older', newer', hbefore, hstay⟩ := exists_append_of_kept hkept
    obtain ⟨since, hlast, hbehind⟩ := h older' r newer' hbefore
    refine ⟨_, hlast.append fun heq => hne (Option.some.inj heq).symm, fun other hother => ?_⟩
    rw [storedKeys_append, List.mem_append] at hother
    by_cases heq : other = key
    · exact ⟨⟨key, rows, now⟩, by simp, heq.symm⟩
    · obtain hother | hother := hother
      · obtain ⟨x, hx, rfl⟩ := hbehind other hother
        exact ⟨x, List.mem_append_left _ (hstay x hx heq), rfl⟩
      · exact absurd (List.mem_singleton.mp hother) heq

theorem get (h : Traces es j) (key : String) (now : Nat) :
    Traces (es ++ [(now, .get key)]) (j.get key now).2 := by
  intro older r newer hrecords
  rw [get_records] at hrecords
  obtain ⟨since, hlast, hbehind⟩ := h older r newer hrecords
  refine ⟨_, hlast.append (by simp [CacheOperation.storedKey?]), fun other hother => hbehind other ?_⟩
  simpa [storedKeys, CacheOperation.storedKey?] using hother

/-- Where rows are only stored and read, every record is traced. -/
theorem run (maxEntries timeToLive : Nat) {es : List (Nat × CacheOperation)}
    (hes : ∀ e ∈ es, e.2.storedKey?.isSome ∨ e.2.readKey?.isSome) :
    Traces es (Run.after step (new maxEntries timeToLive) es) := by
  induction es using List.reverseRecOn with
  | nil =>
    intro older r newer hrecords
    exact absurd hrecords.symm (by simp [Run.after, new])
  | append_singleton es e ih =>
    have ih := ih fun f hf => hes f (List.mem_append_left _ hf)
    obtain ⟨now, op⟩ := e
    have hop := hes (now, op) (by simp)
    rw [Run.after_append]
    cases op with
    | put key rows => exact ih.put key rows now
    | get key => exact ih.get key now
    | _ => simp [CacheOperation.storedKey?, CacheOperation.readKey?] at hop

end Traces

theorem othersStored_lt_capacity (h : Sound now j) {older newer : List Record}
    (hrecords : j.records = older ++ r :: newer) (hsince : ∀ key ∈ storedKeys since, ∃ x ∈ newer, x.key = key)
    (key : String) : (othersStored key since).card < j.capacity := by
  have hsub : othersStored key since ⊆ (newer.map (·.key)).toFinset := by
    intro other hother
    obtain ⟨x, hx, rfl⟩ := hsince other (List.mem_toFinset.mp (Finset.mem_of_mem_erase hother))
    exact List.mem_toFinset.mpr (List.mem_map_of_mem hx)
  have hcard := Finset.card_le_card hsub
  have hlength := List.toFinset_card_le (newer.map (·.key))
  have hwithin := h.within
  rw [hrecords, List.length_append, List.length_cons] at hwithin
  rw [List.length_map] at hlength
  omega

/-! ### Reads -/

/-- The journal but for what was read of it. -/
def unread (j : Journal) : Journal := { j with reads := [] }

theorem unread_step (h : j.unread = k.unread) (e : Nat × CacheOperation) :
    (j.step e).2.unread = (k.step e).2.unread := by
  obtain ⟨now, op⟩ := e
  have hstep : ∀ j : Journal, (j.step (now, op)).2.unread = (j.unread.step (now, op)).2.unread := by
    intro j
    cases op with
    | get key =>
      simp only [step, get]
      split <;> split <;> rfl
    | _ => rfl
  rw [hstep j, hstep k, h]

theorem unread_get (j : Journal) (key : String) (now : Nat) : (j.step (now, .get key)).2.unread = j.unread := by
  simp only [step, get]
  split <;> rfl

/-- A run leaves the same records when its reads are left out. -/
theorem unread_run (h : j.unread = k.unread) (es : List (Nat × CacheOperation)) :
    (Run.after step j es).unread = (Run.after step k (withoutReads es)).unread := by
  induction es generalizing j k with
  | nil => exact h
  | cons e es ih =>
    obtain ⟨now, op⟩ := e
    by_cases hread : ∃ key, op = .get key
    · obtain ⟨key, rfl⟩ := hread
      exact ih ((unread_get j key now).trans h)
    · have hcons : withoutReads ((now, op) :: es) = (now, op) :: withoutReads es := by
        cases op with
        | get key => exact absurd ⟨key, rfl⟩ hread
        | _ => rfl
      rw [hcons]
      exact ih (unread_step h (now, op))

end Journal

namespace ResultCache

variable (maxEntries timeToLive : Nat)

/-- What was stored last is found, if it is not too old nor taken out by hand, with fewer other keys stored since
than there is room for. -/
theorem get_of_lastStored (hes : Run.Chronological es) (hlast : LastStored es key rows time since)
    (hspares : ∀ e ∈ since, e.2.Spares key) (hroom : (othersStored key since).card < max maxEntries 1)
    (hnow : ∀ e ∈ es, e.1 ≤ now) (hage : now - time ≤ timeToLive) :
    ((Run.after step (new maxEntries timeToLive) es).get key now).1 = some rows := by
  obtain ⟨hrep, hsound⟩ := (represents_run maxEntries timeToLive hes).2 now hnow
  have hheld := Journal.heldBefore_of_lastStored maxEntries timeToLive hes hlast hroom hspares fun e he _ => by
    have hle := hnow e (hlast.mem_of_mem he)
    omega
  have hfind : (Run.after Journal.step (Journal.new maxEntries timeToLive) es).find? key = some ⟨key, rows, time⟩ :=
    (Journal.find?_key_eq_some_iff hsound.distinct).mpr ⟨hheld.mem, rfl⟩
  have hfresh : (Run.after Journal.step (Journal.new maxEntries timeToLive) es).fresh now ⟨key, rows, time⟩ = true := by
    rw [Journal.fresh_iff, Journal.timeToLive_run]
    simp only
    omega
  rw [get_fst, hrep.find?, hfind, Option.filter_some, if_pos hfresh]
  rfl

/-- Where rows are only stored and read, a key is held as long as fewer others have been stored since than there is
room for. -/
theorem contains_iff_lastStored (hes : Run.Chronological es)
    (honly : ∀ e ∈ es, e.2.storedKey?.isSome ∨ e.2.readKey?.isSome) (key : String) :
    (Run.after step (new maxEntries timeToLive) es).entries.contains key = true ↔
      ∃ rows time since, LastStored es key rows time since ∧ (othersStored key since).card < max maxEntries 1 := by
  obtain ⟨now, hnow⟩ := Run.exists_time es
  obtain ⟨hrep, hsound⟩ := (represents_run maxEntries timeToLive hes).2 now hnow
  rw [hrep.contains, Journal.find?_isSome_iff]
  constructor
  · rintro ⟨r, hr, rfl⟩
    obtain ⟨older, newer, hrecords⟩ := List.append_of_mem hr
    obtain ⟨since, hlast, hsince⟩ := Journal.Traces.run maxEntries timeToLive honly older r newer hrecords
    have hcard := Journal.othersStored_lt_capacity hsound hrecords hsince r.key
    rw [Journal.capacity_run] at hcard
    exact ⟨r.rows, r.storedAt, since, hlast, hcard⟩
  · rintro ⟨rows, time, since, hlast, hroom⟩
    have hsince : ∀ e ∈ since, e.2.storedKey?.isSome ∨ e.2.readKey?.isSome := fun e he =>
      honly e (hlast.mem_of_mem he)
    have hheld := Journal.heldBefore_of_lastStored maxEntries timeToLive hes hlast hroom
      (fun e he => CacheOperation.spares_of_isSome (hsince e he) key)
      fun e he hclean => by simpa [hclean, CacheOperation.storedKey?, CacheOperation.readKey?] using hsince e he
    exact ⟨_, hheld.mem, rfl⟩

/-- Which keys are held does not depend on what is read. -/
theorem contains_withoutReads (hes : Run.Chronological es) (key : String) :
    (Run.after step (new maxEntries timeToLive) (withoutReads es)).entries.contains key =
      (Run.after step (new maxEntries timeToLive) es).entries.contains key := by
  obtain ⟨now, hnow⟩ := Run.exists_time es
  obtain ⟨hrep, -⟩ := (represents_run maxEntries timeToLive hes).2 now hnow
  have hfilter : Run.Chronological (withoutReads es) := List.Pairwise.sublist List.filter_sublist hes
  obtain ⟨hrep', -⟩ := (represents_run maxEntries timeToLive hfilter).2 now fun e he =>
    hnow e (List.mem_of_mem_filter he)
  have hrecords := congrArg Journal.records (Journal.unread_run (j := Journal.new maxEntries timeToLive) rfl es)
  rw [hrep.contains, hrep'.contains, Journal.find?, Journal.find?]
  exact congrArg (fun l : List Journal.Record => (l.find? fun r => r.key = key).isSome) hrecords.symm

/-- What was stored last under a key is found as long as it is not too old, not taken out by hand, and fewer other
keys have been stored since than there is room for. Where rows are only stored and read, exactly the keys with
fewer others stored since are held. Which keys are held does not depend on what is read. -/
theorem keeps_recently_stored {es : List (Nat × CacheOperation)} (hes : Run.Chronological es) :
    (∀ key rows time since now, LastStored es key rows time since → (∀ e ∈ since, e.2.Spares key) →
        (othersStored key since).card < max maxEntries 1 → (∀ e ∈ es, e.1 ≤ now) → now - time ≤ timeToLive →
        ((Run.after step (new maxEntries timeToLive) es).get key now).1 = some rows) ∧
      ((∀ e ∈ es, e.2.storedKey?.isSome ∨ e.2.readKey?.isSome) → ∀ key,
        ((Run.after step (new maxEntries timeToLive) es).entries.contains key = true ↔
          ∃ rows time since, LastStored es key rows time since ∧
            (othersStored key since).card < max maxEntries 1)) ∧
      ∀ key, (Run.after step (new maxEntries timeToLive) (withoutReads es)).entries.contains key =
        (Run.after step (new maxEntries timeToLive) es).entries.contains key := by
  refine ⟨?_, ?_, ?_⟩
  · intro key rows time since now hlast hspares hroom hnow hage
    exact get_of_lastStored maxEntries timeToLive hes hlast hspares hroom hnow hage
  · intro honly key
    exact contains_iff_lastStored maxEntries timeToLive hes honly key
  · exact contains_withoutReads maxEntries timeToLive hes

/-- With room for two, `a` is stored, read and stored over, and `b` is stored and taken out before it is swept:
at its last moment `a` is found with what was stored last. -/
theorem keeps_recently_stored_through_other_keys :
    @Run.Chronological CacheOperation [(0, .put "a" []), (1, .get "a"), (2, .put "a" [∅]), (3, .put "b" []),
        (4, .delete "b"), (12, .clean)] ∧
      ((Run.after step (new 2 10) [(0, .put "a" []), (1, .get "a"), (2, .put "a" [∅]), (3, .put "b" []),
        (4, .delete "b"), (12, .clean)]).get "a" 12).1 = some [∅] := by
  have hes : @Run.Chronological CacheOperation [(0, .put "a" []), (1, .get "a"), (2, .put "a" [∅]), (3, .put "b" []),
      (4, .delete "b"), (12, .clean)] := by decide
  refine ⟨hes, (keeps_recently_stored 2 10 hes).1 "a" [∅] 2 [(3, .put "b" []), (4, .delete "b"), (12, .clean)] 12
    ⟨⟨[(0, .put "a" []), (1, .get "a")], rfl⟩, by decide⟩ ?_ (by decide) (by decide) (by decide)⟩
  intro e he
  simp only [List.mem_cons, List.not_mem_nil, or_false] at he
  rcases he with rfl | rfl | rfl <;> exact ⟨by decide, by decide⟩

end ResultCache

end Audience
