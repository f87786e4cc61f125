import Audience.Proofs.Results.Operation
import Mathlib.Data.List.Nodup

/-!
A cache of results as one list of records, from the oldest to the newest. Storing drops the old record of the
key, or else the oldest record when the list is full, and adds the new record at the end; every other operation
looks up or filters. The list is what the map and the queue of a cache are compared with.

`Journal.Sound` is the invariant: keys are distinct, times ascend and none is past the present, and there are
no more records than the capacity allows. `Journal.swept_put` says that storing does not see expired records,
for these are always the oldest ones.
-/

namespace Audience

/-- Stored rows with their key and the time when they were stored. -/
structure Journal.Record where
  key : String
  rows : List Row
  storedAt : Nat
deriving DecidableEq

/-- A list of records that is used as a cache. -/
structure Journal where
  capacity : Nat
  timeToLive : Nat
  /-- From the oldest to the newest. -/
  records : List Journal.Record
  /-- Of each read since the last clearing, whether it found rows. -/
  reads : List Bool
deriving DecidableEq

namespace Journal

/-- No records. There is room for at least one. -/
def new (maxEntries timeToLive : Nat) : Journal := ⟨max maxEntries 1, timeToLive, [], []⟩

/-- The record is no older than the time to live. -/
def fresh (j : Journal) (now : Nat) (r : Record) : Bool := now ≤ r.storedAt + j.timeToLive

def find? (j : Journal) (key : String) : Option Record := j.records.find? fun r => r.key = key

def others (j : Journal) (key : String) : List Record := j.records.filter fun r => r.key ≠ key

/-- The records that stay when rows are stored under a key. -/
def kept (j : Journal) (key : String) : List Record :=
  if (j.find? key).isSome then j.others key
  else if j.capacity ≤ j.records.length then j.records.tail
  else j.records

def put (j : Journal) (key : String) (rows : List Row) (now : Nat) : Journal :=
  { j with records := j.kept key ++ [⟨key, rows, now⟩] }

/-- Reads a key: a hit when its record is fresh. -/
def get (j : Journal) (key : String) (now : Nat) : Option (List Row) × Journal :=
  match (j.find? key).filter (j.fresh now) with
  | some r => (some r.rows, { j with reads := j.reads ++ [true] })
  | none => (none, { j with reads := j.reads ++ [false] })

def delete (j : Journal) (key : String) : Bool × Journal :=
  ((j.find? key).isSome, { j with records := j.others key })

def clear (j : Journal) : Journal := { j with records := [], reads := [] }

/-- Drops the records that are not fresh and counts them. -/
def clean (j : Journal) (now : Nat) : Nat × Journal :=
  ((j.records.filter fun r => !j.fresh now r).length, { j with records := j.records.filter (j.fresh now) })

def hits (j : Journal) : Nat := j.reads.count true

def misses (j : Journal) : Nat := j.reads.count false

def stats (j : Journal) : CacheStats where
  size := j.records.length
  maxSize := j.capacity
  hits := j.hits
  misses := j.misses
  hitRate := ResultCache.hitRate j.hits j.misses
  timeToLive := j.timeToLive % UInt64.size

def step (j : Journal) : Nat × CacheOperation → CacheAnswer × Journal
  | (now, .put key rows) => (.done, j.put key rows now)
  | (now, .get key) => (.found (j.get key now).1, (j.get key now).2)
  | (_, .delete key) => (.deleted (j.delete key).1, (j.delete key).2)
  | (_, .clear) => (.done, j.clear)
  | (now, .clean) => (.cleaned (j.clean now).1, (j.clean now).2)
  | (_, .size) => (.size j.records.length, j)
  | (_, .stats) => (.stats j.stats, j)

variable {j : Journal} {key other : String} {rows : List Row} {now later : Nat} {r : Record}

/-! ### Looking up -/

theorem find?_eq_none_iff : j.find? key = none ↔ ∀ r ∈ j.records, r.key ≠ key := by
  simp [find?]

theorem find?_isSome_iff : (j.find? key).isSome ↔ ∃ r ∈ j.records, r.key = key := by
  simp [find?]

theorem mem_others : r ∈ j.others key ↔ r ∈ j.records ∧ r.key ≠ key := by
  simp [others]

theorem others_eq_records (h : ∀ r ∈ j.records, r.key ≠ key) : j.others key = j.records :=
  List.filter_eq_self.mpr fun r hr => decide_eq_true (h r hr)

/-- With distinct keys, the record found under a key is the only one with it. -/
theorem find?_key_eq_some_iff {l : List Record} (h : (l.map (·.key)).Nodup) :
    (l.find? fun x => x.key = key) = some r ↔ r ∈ l ∧ r.key = key := by
  constructor
  · intro hr
    exact ⟨List.mem_of_find?_eq_some hr, by simpa using List.find?_some hr⟩
  · rintro ⟨hr, hkey⟩
    obtain ⟨x, hx⟩ : ∃ x, (l.find? fun x => x.key = key) = some x :=
      Option.isSome_iff_exists.mp (List.find?_isSome.mpr ⟨r, hr, by simpa using hkey⟩)
    have hxkey : x.key = key := by simpa using List.find?_some hx
    rw [hx, List.inj_on_of_nodup_map h (List.mem_of_find?_eq_some hx) hr (hxkey.trans hkey.symm)]

/-- With distinct keys, a test of the records decides about the one under a key. -/
theorem find?_filter {l : List Record} (h : (l.map (·.key)).Nodup) (p : Record → Bool) (key : String) :
    ((l.filter p).find? fun x => x.key = key) = (l.find? fun x => x.key = key).filter p := by
  have hp : ((l.filter p).map (·.key)).Nodup := (List.filter_sublist.map _).nodup h
  ext r
  rw [find?_key_eq_some_iff hp, List.mem_filter, Option.filter_eq_some_iff, find?_key_eq_some_iff h]
  constructor
  · rintro ⟨⟨hr, hpr⟩, hkey⟩
    exact ⟨⟨hr, hkey⟩, hpr⟩
  · rintro ⟨⟨hr, hkey⟩, hpr⟩
    exact ⟨⟨hr, hpr⟩, hkey⟩

theorem fresh_iff : j.fresh now r = true ↔ now ≤ r.storedAt + j.timeToLive := by
  simp [fresh]

/-! ### The invariant -/

/-- What holds of a journal at a time. -/
structure Sound (now : Nat) (j : Journal) : Prop where
  distinct : (j.records.map (·.key)).Nodup
  ascending : j.records.Pairwise fun a b => a.storedAt ≤ b.storedAt
  past : ∀ r ∈ j.records, r.storedAt ≤ now
  positive : 1 ≤ j.capacity
  within : j.records.length ≤ j.capacity

theorem sound_new (maxEntries timeToLive now : Nat) : Sound now (new maxEntries timeToLive) where
  distinct := List.nodup_nil
  ascending := List.Pairwise.nil
  past := fun _ hr => by cases hr
  positive := Nat.le_max_right _ _
  within := Nat.zero_le _

theorem kept_sublist (j : Journal) (key : String) : (j.kept key).Sublist j.records := by
  unfold kept
  split
  · exact List.filter_sublist
  · split
    · exact List.tail_sublist _
    · exact List.Sublist.refl _

theorem key_ne_of_mem_kept (h : r ∈ j.kept key) : r.key ≠ key := by
  unfold kept at h
  split at h
  · exact (mem_others.mp h).2
  · next hnone =>
    have hall := find?_eq_none_iff.mp (Option.not_isSome_iff_eq_none.mp hnone)
    split at h
    · exact hall r (List.mem_of_mem_tail h)
    · exact hall r h

namespace Sound

theorem lasts (h : Sound now j) (hle : now ≤ later) : Sound later j :=
  { h with past := fun r hr => Nat.le_trans (h.past r hr) hle }

/-- Dropping records keeps the invariant, whatever becomes of the reads. -/
theorem of_sublist (h : Sound now j) {k : Journal} (hcap : k.capacity = j.capacity)
    (hsub : k.records.Sublist j.records) : Sound now k where
  distinct := (hsub.map _).nodup h.distinct
  ascending := h.ascending.sublist hsub
  past := fun r hr => h.past r (hsub.subset hr)
  positive := hcap ▸ h.positive
  within := hcap ▸ Nat.le_trans hsub.length_le h.within

/-- There is room for the new record: the old one left, or the oldest one, or the list was not full. -/
theorem length_kept_lt (h : Sound now j) (key : String) : (j.kept key).length < j.capacity := by
  have hpos := h.positive
  have hwithin := h.within
  unfold kept
  split
  · next hsome =>
    obtain ⟨r, hr, hkey⟩ := find?_isSome_iff.mp hsome
    have hlt : (j.others key).length < j.records.length :=
      List.length_filter_lt_length_iff_exists.mpr ⟨r, hr, by simp [hkey]⟩
    omega
  · split
    · rw [List.length_tail]
      omega
    · omega

theorem put (h : Sound now j) : Sound now (j.put key rows now) where
  distinct := by
    have hsub := ((j.kept_sublist key).map (·.key)).nodup h.distinct
    simp only [Journal.put, List.map_append, List.map_cons, List.map_nil]
    refine List.nodup_append.mpr ⟨hsub, List.pairwise_singleton _ _, ?_⟩
    intro a ha b hb
    obtain ⟨r, hr, rfl⟩ := List.mem_map.mp ha
    obtain rfl := List.mem_singleton.mp hb
    exact key_ne_of_mem_kept hr
  ascending := by
    refine List.pairwise_append.mpr ⟨h.ascending.sublist (j.kept_sublist key), List.pairwise_singleton _ _, ?_⟩
    intro a ha b hb
    obtain rfl := List.mem_singleton.mp hb
    exact h.past a ((j.kept_sublist key).subset ha)
  past := fun r hr => by
    rcases List.mem_append.mp hr with hr | hr
    · exact h.past r ((j.kept_sublist key).subset hr)
    · obtain rfl := List.mem_singleton.mp hr
      exact Nat.le_refl _
  positive := h.positive
  within := by
    have hlt := h.length_kept_lt key
    simp only [Journal.put, List.length_append, List.length_singleton]
    omega

theorem get (h : Sound now j) : Sound now (j.get key now).2 := by
  unfold Journal.get
  split
  · exact h.of_sublist rfl (List.Sublist.refl _)
  · exact h.of_sublist rfl (List.Sublist.refl _)

/-- Every operation keeps the invariant. -/
theorem step (h : Sound now j) (op : CacheOperation) : Sound now (j.step (now, op)).2 := by
  cases op with
  | put key rows => exact h.put
  | get key => exact h.get
  | delete key => exact h.of_sublist rfl List.filter_sublist
  | clear => exact h.of_sublist rfl (List.nil_sublist _)
  | clean => exact h.of_sublist rfl List.filter_sublist
  | size => exact h
  | stats => exact h

end Sound

theorem get_records (j : Journal) (key : String) (now : Nat) : (j.get key now).2.records = j.records := by
  unfold get
  split <;> rfl

theorem step_capacity (j : Journal) (e : Nat × CacheOperation) : (j.step e).2.capacity = j.capacity := by
  obtain ⟨now, op⟩ := e
  cases op with
  | get key =>
    simp only [step, get]
    split <;> rfl
  | _ => rfl

theorem step_timeToLive (j : Journal) (e : Nat × CacheOperation) : (j.step e).2.timeToLive = j.timeToLive := by
  obtain ⟨now, op⟩ := e
  cases op with
  | get key =>
    simp only [step, get]
    split <;> rfl
  | _ => rfl

theorem capacity_run (maxEntries timeToLive : Nat) (es : List (Nat × CacheOperation)) :
    (Run.after step (new maxEntries timeToLive) es).capacity = max maxEntries 1 :=
  Run.after_induction (P := fun j : Journal => j.capacity = max maxEntries 1) step
    (fun j e h => (j.step_capacity e).trans h) rfl es

theorem timeToLive_run (maxEntries timeToLive : Nat) (es : List (Nat × CacheOperation)) :
    (Run.after step (new maxEntries timeToLive) es).timeToLive = timeToLive :=
  Run.after_induction (P := fun j : Journal => j.timeToLive = timeToLive) step
    (fun j e h => (j.step_timeToLive e).trans h) rfl es

/-! ### What is swept -/

/-- The journal without the records that are not fresh. -/
def swept (now : Nat) (j : Journal) : Journal := (j.clean now).2

theorem mem_swept : r ∈ (swept now j).records ↔ r ∈ j.records ∧ j.fresh now r = true :=
  List.mem_filter

theorem Sound.swept (h : Sound now j) : Sound now (swept now j) := h.of_sublist rfl List.filter_sublist

theorem find?_swept (h : Sound now j) (key : String) :
    (swept now j).find? key = (j.find? key).filter (j.fresh now) :=
  find?_filter h.distinct _ _

/-- What is not fresh now is not fresh later. -/
theorem swept_swept (hle : now ≤ later) (j : Journal) : swept later (swept now j) = swept later j := by
  have hrecords : (swept later (swept now j)).records = (swept later j).records := by
    simp only [swept, clean, List.filter_filter]
    refine List.filter_congr fun r _ => ?_
    have himp : now ≤ r.storedAt + j.timeToLive ∨ ¬later ≤ r.storedAt + j.timeToLive := by omega
    rcases himp with h | h <;> simp [fresh, h]
  exact congrArg (fun l => { j with records := l }) hrecords

/-- An oldest record that is fresh has only fresh ones behind it. -/
theorem swept_eq_self (h : Sound now j) {rest : List Record} (hrecords : j.records = r :: rest)
    (hr : j.fresh now r = true) : swept now j = j := by
  have hall : ∀ x ∈ j.records, j.fresh now x = true := by
    intro x hx
    rw [hrecords] at hx
    rcases List.mem_cons.mp hx with rfl | hx
    · exact hr
    · have hasc := h.ascending
      rw [hrecords] at hasc
      have hle := (List.pairwise_cons.mp hasc).1 x hx
      rw [fresh_iff] at hr ⊢
      omega
  exact congrArg (fun l => { j with records := l }) (List.filter_eq_self.mpr hall)

/-- Where a record is not fresh, the swept journal is not full. -/
theorem length_swept_lt (h : Sound now j) (hr : r ∈ j.records) (hold : j.fresh now r = false) :
    (swept now j).records.length < (swept now j).capacity := by
  have hlt : (swept now j).records.length < j.records.length :=
    List.length_filter_lt_length_iff_exists.mpr ⟨r, hr, by simp [hold]⟩
  exact Nat.lt_of_lt_of_le hlt h.within

theorem kept_of_lt (hnone : j.find? key = none) (hlt : j.records.length < j.capacity) :
    j.kept key = j.records := by
  unfold kept
  rw [hnone, if_neg (by simp), if_neg (by omega)]

/-- The records that stay, swept, are those that stay of the swept journal. -/
theorem filter_kept (h : Sound now j) (key : String) :
    (j.kept key).filter (j.fresh now) = (swept now j).kept key := by
  cases hfind : j.find? key with
  | some r =>
    have hmem : r ∈ j.records := List.mem_of_find?_eq_some hfind
    have hkept : (j.kept key).filter (j.fresh now) = (swept now j).others key := by
      simp only [kept, hfind, Option.isSome_some, if_true, others, swept, clean, List.filter_filter]
      exact List.filter_congr fun x _ => Bool.and_comm _ _
    by_cases hr : j.fresh now r
    · have hsome : (swept now j).find? key = some r := by
        rw [find?_swept h, hfind]
        simp [Option.filter, hr]
      rw [hkept]
      simp [kept, hsome]
    · -- The key's own record is not fresh: the swept journal does not hold it and is not full.
      have hnone : (swept now j).find? key = none := by
        rw [find?_swept h, hfind]
        simp [Option.filter, hr]
      rw [hkept, kept_of_lt hnone (length_swept_lt h hmem (by simpa using hr))]
      exact others_eq_records (find?_eq_none_iff.mp hnone)
  | none =>
    have hnone : (swept now j).find? key = none := by
      rw [find?_swept h, hfind]
      rfl
    by_cases hfull : j.capacity ≤ j.records.length
    · obtain ⟨r, rest, hrecords⟩ : ∃ r rest, j.records = r :: rest := by
        refine List.exists_cons_of_length_pos ?_
        have := h.positive
        omega
      by_cases hr : j.fresh now r
      · rw [swept_eq_self h hrecords hr]
        refine List.filter_eq_self.mpr fun x hx => ?_
        have hx : x ∈ (swept now j).records := by
          rw [swept_eq_self h hrecords hr]
          exact (j.kept_sublist key).subset hx
        exact (mem_swept.mp hx).2
      · -- The oldest record leaves and is not fresh: nothing has to leave the swept journal.
        have hmem : r ∈ j.records := hrecords ▸ List.mem_cons_self
        rw [kept_of_lt hnone (length_swept_lt h hmem (by simpa using hr))]
        have htail : j.kept key = rest := by
          rw [kept, hfind, if_neg (by simp), if_pos hfull, hrecords, List.tail_cons]
        simp only [htail, swept, clean, hrecords]
        rw [List.filter_cons_of_neg hr]
    · have hlt := Nat.not_le.mp hfull
      rw [kept_of_lt hfind hlt, kept_of_lt hnone (Nat.lt_of_le_of_lt (List.length_filter_le _ _) hlt)]
      rfl

/-- Storing does not see the records that are not fresh. -/
theorem swept_put (h : Sound now j) (key : String) (rows : List Row) :
    swept now (j.put key rows now) = (swept now j).put key rows now := by
  let r : Record := ⟨key, rows, now⟩
  have hnew : j.fresh now r = true := fresh_iff.mpr (Nat.le_add_right now _)
  have hrecords : (j.kept key ++ [r]).filter (j.fresh now) = (swept now j).kept key ++ [r] := by
    rw [List.filter_append, filter_kept h, List.filter_cons_of_pos hnew, List.filter_nil]
  exact congrArg (fun l => { j with records := l }) hrecords

end Journal

end Audience
