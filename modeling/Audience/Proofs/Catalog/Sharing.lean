import Audience.Proofs.Catalog.Lookup
import Mathlib.Algebra.BigOperators.Group.Finset.Basic
import Mathlib.Data.Finset.Card

/-!
Look-ups that run together. While the warehouse stays as it is, no look-up changes what another one answers
(`answerTo_get`): a schema that is stored is the one that a look-up of its table would load. So it does not matter for
the answers, nor for what is held afterwards, which look-ups share a load. The loads are counted by table: a shared one
counts once, and without sharing a table is loaded again as often as its load failed before.
-/

namespace Audience

namespace SchemaCache

variable {c d : SchemaCache} {g k : Gateway} {w : Warehouse} {t other : TableRef} {ts : List TableRef}

/-! ### One look-up -/

/-- What a look-up of the table answers. -/
def answerTo (c : SchemaCache) (w : Warehouse) (t : TableRef) : Except SchemaError TableSchema :=
  match t.firstInvalid? with
  | some part => .error (.invalidIdentifier part)
  | none =>
    match c.find? t with
    | some schema => .ok schema
    | none => TableSchema.inCatalog w t

/-- The table can be looked up and has no schema. -/
def Missing (c : SchemaCache) (t : TableRef) : Prop := t.Valid ∧ c.find? t = none

instance (c : SchemaCache) : DecidablePred c.Missing := fun _ => inferInstanceAs (Decidable (_ ∧ _))

/-- The schema that a look-up of the table adds to those that are held. -/
def added? (c : SchemaCache) (w : Warehouse) (t : TableRef) : Option TableSchema :=
  if c.Missing t then (TableSchema.inCatalog w t).toOption else none

theorem get_fst (c : SchemaCache) (g : Gateway) (t : TableRef) : (c.get g t).1 = c.answerTo g.answer t := by
  unfold answerTo
  cases hvalid : t.firstInvalid? with
  | some part => simp only [get_of_invalid c g hvalid]
  | none =>
    cases hfind : c.find? t with
    | some schema => simp only [get_of_held g hvalid hfind]
    | none => simp only [get_of_missing g hvalid hfind]

/-- A table that is not missing leaves the cache as it is. -/
theorem get_of_not_missing (g : Gateway) (h : ¬c.Missing t) : (c.get g t).2 = (c, g) := by
  cases hvalid : t.firstInvalid? with
  | some part => rw [get_of_invalid c g hvalid]
  | none =>
    cases hfind : c.find? t with
    | some schema => rw [get_of_held g hvalid hfind]
    | none => exact absurd ⟨hvalid, hfind⟩ h

theorem get_loads (c : SchemaCache) (g : Gateway) (t : TableRef) :
    (c.get g t).2.1.loads = c.loads + if c.Missing t then 1 else 0 := by
  by_cases h : c.Missing t
  · rw [if_pos h, get_of_missing g h.1 h.2]
    exact c.record_loads _
  · rw [if_neg h, get_of_not_missing g h]
    rfl

theorem get_held (c : SchemaCache) (g : Gateway) (t : TableRef) :
    (c.get g t).2.1.held = (c.added? g.answer t).toList ++ c.held := by
  unfold added?
  by_cases h : c.Missing t
  · rw [if_pos h, get_of_missing g h.1 h.2]
    cases hanswer : TableSchema.inCatalog g.answer t with
    | error cause => rfl
    | ok schema => exact held_store (c := { c with loads := c.loads + 1 }) (TableSchema.ref_of_inCatalog hanswer ▸ h.2)
  · rw [if_neg h, get_of_not_missing g h]
    rfl

theorem find?_get (c : SchemaCache) (g : Gateway) (t other : TableRef) :
    (c.get g t).2.1.find? other = (c.find? other).or (if t = other then c.added? g.answer t else none) := by
  unfold added?
  by_cases h : c.Missing t
  · rw [get_of_missing g h.1 h.2, find?_record]
    by_cases hother : t = other
    · subst hother
      simp [h, h.2]
    · simp [hother]
  · simp [get_of_not_missing g h, h]

/-! ### What look-ups leave of each other -/

theorem answerTo_get (c : SchemaCache) (g : Gateway) (t : TableRef) :
    (c.get g t).2.1.answerTo g.answer = c.answerTo g.answer := by
  funext other
  unfold answerTo
  rw [find?_get]
  cases hvalid : other.firstInvalid? with
  | some part => rfl
  | none =>
    cases hfind : c.find? other with
    | some schema => rfl
    | none =>
      by_cases hother : t = other
      · subst hother
        have hmissing : c.Missing t := ⟨hvalid, hfind⟩
        cases hanswer : TableSchema.inCatalog g.answer t <;> simp [added?, hmissing, hanswer, Except.toOption]
      · simp [hother]

theorem missing_get (c : SchemaCache) (g : Gateway) (t other : TableRef) :
    (c.get g t).2.1.Missing other ↔ c.Missing other ∧ (t = other → c.added? g.answer t = none) := by
  rw [Missing, find?_get, Option.or_eq_none_iff, Missing, and_assoc]
  by_cases h : t = other <;> simp [h]

/-- A look-up adds nothing to what was looked up before. -/
theorem added?_get_self (c : SchemaCache) (g : Gateway) (t : TableRef) : (c.get g t).2.1.added? g.answer t = none := by
  by_cases h : (c.get g t).2.1.Missing t
  · obtain ⟨hmissing, hnone⟩ := (missing_get c g t t).mp h
    have hadded := hnone rfl
    rw [added?, if_pos hmissing] at hadded
    rw [added?, if_pos h, hadded]
  · exact if_neg h

theorem added?_get (h : c.added? g.answer other = none) (t : TableRef) :
    (c.get g t).2.1.added? g.answer other = none := by
  by_cases hmissing : (c.get g t).2.1.Missing other
  · rw [added?, if_pos ((missing_get c g t other).mp hmissing).1] at h
    rw [added?, if_pos hmissing, h]
  · exact if_neg hmissing

theorem added?_congr (h : c.held = d.held) (w : Warehouse) (t : TableRef) : c.added? w t = d.added? w t := by
  have hfind : c.find? t = d.find? t := by simp only [find?, h]
  have hmissing : c.Missing t ↔ d.Missing t := by simp only [Missing, hfind]
  exact if_congr hmissing rfl rfl

/-! ### Answers and what is held -/

theorem getEach_cons (c : SchemaCache) (g : Gateway) (t : TableRef) (ts : List TableRef) :
    c.getEach g (t :: ts) =
      ((c.get g t).1 :: ((c.get g t).2.1.getEach (c.get g t).2.2 ts).1,
        ((c.get g t).2.1.getEach (c.get g t).2.2 ts).2) := rfl

theorem getShared_of_flight (c : SchemaCache) (g : Gateway) {flights : Flights} {answer : Except SchemaError TableSchema}
    (h : flights.lookup t = some answer) (ts : List TableRef) :
    c.getShared g flights (t :: ts) = (answer :: (c.getShared g flights ts).1, (c.getShared g flights ts).2) := by
  simp only [getShared, h]

theorem getShared_of_no_flight (c : SchemaCache) (g : Gateway) {flights : Flights} (h : flights.lookup t = none)
    (ts : List TableRef) :
    c.getShared g flights (t :: ts) =
      ((c.get g t).1 :: ((c.get g t).2.1.getShared (c.get g t).2.2 ((t, (c.get g t).1) :: flights) ts).1,
        ((c.get g t).2.1.getShared (c.get g t).2.2 ((t, (c.get g t).1) :: flights) ts).2) := by
  simp only [getShared, h]

theorem getEach_fst (c : SchemaCache) (g : Gateway) (ts : List TableRef) :
    (c.getEach g ts).1 = ts.map (c.answerTo g.answer) := by
  induction ts generalizing c g with
  | nil => rfl
  | cons t ts ih =>
    have hlater := ih (c.get g t).2.1 (c.get g t).2.2
    rw [get_answer, answerTo_get] at hlater
    rw [getEach_cons, hlater, get_fst, List.map_cons]

/-- A load that is under way has the answer of a look-up, and another look-up of its table would add nothing. -/
def Landed (c : SchemaCache) (w : Warehouse) (flights : Flights) : Prop :=
  ∀ t answer, flights.lookup t = some answer → answer = c.answerTo w t ∧ c.added? w t = none

theorem Landed.get {flights : Flights} (h : c.Landed g.answer flights) (t : TableRef) :
    (c.get g t).2.1.Landed g.answer ((t, (c.get g t).1) :: flights) := by
  intro other answer hlookup
  rw [answerTo_get]
  rw [List.lookup_cons] at hlookup
  by_cases hother : other = t
  · subst hother
    obtain rfl : (c.get g other).1 = answer := by simpa using hlookup
    exact ⟨c.get_fst g other, added?_get_self c g other⟩
  · obtain ⟨hanswer, hadded⟩ := h other answer (by simpa [beq_false_of_ne hother] using hlookup)
    exact ⟨hanswer, added?_get hadded t⟩

theorem getShared_fst {flights : Flights} (h : c.Landed g.answer flights) (ts : List TableRef) :
    (c.getShared g flights ts).1 = ts.map (c.answerTo g.answer) := by
  induction ts generalizing c g flights with
  | nil => rfl
  | cons t ts ih =>
    cases hlookup : flights.lookup t with
    | some answer => rw [getShared_of_flight c g hlookup, ih h, (h t answer hlookup).1, List.map_cons]
    | none =>
      have hlater := ih (c := (c.get g t).2.1) (g := (c.get g t).2.2) (by simpa using h.get t)
      rw [get_answer, answerTo_get] at hlater
      rw [getShared_of_no_flight c g hlookup, hlater, get_fst, List.map_cons]

/-- Look-ups that share loads leave the same schemas as look-ups one after the other. -/
theorem getShared_held {flights : Flights} (h : c.Landed g.answer flights) (hheld : c.held = d.held)
    (hanswer : g.answer = k.answer) (ts : List TableRef) :
    (c.getShared g flights ts).2.1.held = (d.getEach k ts).2.1.held := by
  induction ts generalizing c d g k flights with
  | nil => exact hheld
  | cons t ts ih =>
    rw [getEach_cons]
    cases hlookup : flights.lookup t with
    | some answer =>
      -- Only the look-up of its own sends anything here, and what it loads is held already or fails again.
      rw [getShared_of_flight c g hlookup]
      refine ih h ?_ (by simpa using hanswer)
      rw [get_held, ← added?_congr hheld, ← hanswer, (h t answer hlookup).2, hheld]
      rfl
    | none =>
      rw [getShared_of_no_flight c g hlookup]
      refine ih (by simpa using h.get t) ?_ (by simpa using hanswer)
      rw [get_held, get_held, added?_congr hheld, hanswer, hheld]

/-! ### Loads -/

/-- The missing tables of a list, each once. -/
def missing (c : SchemaCache) (ts : List TableRef) : Finset TableRef := ts.toFinset.filter c.Missing

theorem mem_missing : t ∈ c.missing ts ↔ t ∈ ts ∧ c.Missing t := by
  simp [missing]

/-- A look-up takes its table from those that are missing and not yet under way. -/
theorem filter_missing_cons (c : SchemaCache) (g : Gateway) {flights : Flights} (h : flights.lookup t = none)
    (answer : Except SchemaError TableSchema) (ts : List TableRef) :
    let later := ((c.get g t).2.1.missing ts).filter fun other => ((t, answer) :: flights).lookup other = none
    t ∉ later ∧ ((c.missing (t :: ts)).filter fun other => flights.lookup other = none) =
      if c.Missing t then insert t later else later := by
  intro later
  have hlater : ∀ other, other ∈ later ↔ other ≠ t ∧ (other ∈ ts ∧ c.Missing other) ∧ flights.lookup other = none := by
    intro other
    rw [Finset.mem_filter, mem_missing, missing_get, List.lookup_cons]
    by_cases hother : other = t
    · simp [hother]
    · simp [hother, Ne.symm hother, beq_false_of_ne hother]
  refine ⟨fun hmem => ((hlater t).mp hmem).1 rfl, ?_⟩
  ext other
  rw [Finset.mem_filter, mem_missing, List.mem_cons]
  by_cases hother : other = t
  · subst hother
    split <;> simp [*]
  · split <;> simp [hlater, hother]

theorem getShared_loads (c : SchemaCache) (g : Gateway) (flights : Flights) (ts : List TableRef) :
    (c.getShared g flights ts).2.1.loads = c.loads + ((c.missing ts).filter fun t => flights.lookup t = none).card := by
  induction ts generalizing c g flights with
  | nil => rfl
  | cons t ts ih =>
    cases hlookup : flights.lookup t with
    | some answer =>
      -- A table that is under way counts no more, missing or not.
      have hsame : ((c.missing (t :: ts)).filter fun other => flights.lookup other = none) =
          (c.missing ts).filter fun other => flights.lookup other = none := by
        ext other
        have hother : flights.lookup other = none → other ≠ t := by
          rintro hnone rfl
          exact absurd (hlookup.symm.trans hnone) (by simp)
        simp only [Finset.mem_filter, mem_missing, List.mem_cons]
        tauto
      rw [getShared_of_flight c g hlookup, ih, hsame]
    | none =>
      obtain ⟨hnew, hsplit⟩ := filter_missing_cons c g hlookup (c.get g t).1 ts
      rw [getShared_of_no_flight c g hlookup, ih, get_loads, hsplit]
      split
      · rw [Finset.card_insert_of_notMem hnew]
        omega
      · rfl

/-- The load of the table fails. -/
def LoadFails (w : Warehouse) (t : TableRef) : Prop := ∃ cause, TableSchema.inCatalog w t = .error cause

instance (w : Warehouse) : DecidablePred (LoadFails w) := fun t =>
  match h : TableSchema.inCatalog w t with
  | .error cause => .isTrue ⟨cause, h⟩
  | .ok schema => .isFalse fun ⟨cause, hcause⟩ => by simp [h] at hcause

/-- How often a missing table is loaded when it is looked up over and over. -/
def loadsOf (w : Warehouse) (ts : List TableRef) (t : TableRef) : Nat := if LoadFails w t then ts.count t else 1

theorem loadsOf_cons_of_ne (w : Warehouse) (h : other ≠ t) (ts : List TableRef) :
    loadsOf w (t :: ts) other = loadsOf w ts other := by
  simp [loadsOf, Ne.symm h]

theorem missing_cons_of_missing (h : c.Missing t) (ts : List TableRef) :
    c.missing (t :: ts) = insert t ((c.missing ts).erase t) := by
  ext other
  by_cases hother : other = t
  · simp [mem_missing, hother, h]
  · simp [mem_missing, hother]

theorem missing_cons_of_not_missing (h : ¬c.Missing t) (ts : List TableRef) : c.missing (t :: ts) = c.missing ts := by
  ext other
  by_cases hother : other = t
  · simp [mem_missing, hother, h]
  · simp [mem_missing, hother]

/-- After a failure the table is missing as before. -/
theorem missing_get_of_fails (h : LoadFails g.answer t) (ts : List TableRef) :
    (c.get g t).2.1.missing ts = c.missing ts := by
  obtain ⟨cause, hcause⟩ := h
  ext other
  simp [mem_missing, missing_get, added?, hcause, Except.toOption]

theorem missing_get_of_loads (hmissing : c.Missing t) (h : ¬LoadFails g.answer t) (ts : List TableRef) :
    (c.get g t).2.1.missing ts = (c.missing ts).erase t := by
  obtain ⟨schema, hschema⟩ : ∃ schema, TableSchema.inCatalog g.answer t = .ok schema := by
    cases hanswer : TableSchema.inCatalog g.answer t with
    | error cause => exact absurd ⟨cause, hanswer⟩ h
    | ok schema => exact ⟨schema, rfl⟩
  ext other
  by_cases hother : other = t
  · simp [mem_missing, missing_get, hother, hmissing, added?, hschema, Except.toOption]
  · simp [mem_missing, missing_get, hother, Ne.symm hother]

/-- The loads of the first table of a list stand beside those of the others. -/
theorem sum_loadsOf_cons (h : c.Missing t) (w : Warehouse) (ts : List TableRef) :
    ∑ other ∈ c.missing (t :: ts), loadsOf w (t :: ts) other =
      loadsOf w (t :: ts) t + ∑ other ∈ (c.missing ts).erase t, loadsOf w ts other := by
  rw [missing_cons_of_missing h, Finset.sum_insert (Finset.notMem_erase t _)]
  congr 1
  exact Finset.sum_congr rfl fun other hother => loadsOf_cons_of_ne w (Finset.ne_of_mem_erase hother) ts

theorem sum_loadsOf_of_fails (hmissing : c.Missing t) (h : LoadFails w t) (ts : List TableRef) :
    ∑ other ∈ c.missing ts, loadsOf w ts other =
      ts.count t + ∑ other ∈ (c.missing ts).erase t, loadsOf w ts other := by
  by_cases hmem : t ∈ ts
  · rw [← Finset.add_sum_erase _ _ (mem_missing.mpr ⟨hmem, hmissing⟩), loadsOf, if_pos h]
  · rw [Finset.erase_eq_of_notMem fun hmem' => hmem (mem_missing.mp hmem').1, List.count_eq_zero.mpr hmem, Nat.zero_add]

theorem getEach_loads (c : SchemaCache) (g : Gateway) (ts : List TableRef) :
    (c.getEach g ts).2.1.loads = c.loads + ∑ t ∈ c.missing ts, loadsOf g.answer ts t := by
  induction ts generalizing c g with
  | nil => rfl
  | cons t ts ih =>
    rw [getEach_cons, ih, get_loads, get_answer]
    by_cases hmissing : c.Missing t
    -- After a failure the table is missing for the rest of the list too, and its look-ups there are loads.
    · rw [if_pos hmissing, sum_loadsOf_cons hmissing]
      by_cases hfails : LoadFails g.answer t
      · rw [missing_get_of_fails hfails, sum_loadsOf_of_fails hmissing hfails, loadsOf, if_pos hfails,
          List.count_cons_self]
        omega
      · rw [missing_get_of_loads hmissing hfails, loadsOf, if_neg hfails]
        omega
    · rw [if_neg hmissing, get_of_not_missing g hmissing, missing_cons_of_not_missing hmissing]
      congr 1
      refine Finset.sum_congr rfl fun other hother => (loadsOf_cons_of_ne _ ?_ ts).symm
      rintro rfl
      exact hmissing (mem_missing.mp hother).2

theorem sum_loadsOf (c : SchemaCache) (w : Warehouse) (ts : List TableRef) :
    ∑ t ∈ c.missing ts, loadsOf w ts t =
      (c.missing ts).card + ∑ t ∈ (c.missing ts).filter (LoadFails w), (ts.count t - 1) := by
  rw [Finset.card_eq_sum_ones, Finset.sum_filter, ← Finset.sum_add_distrib]
  refine Finset.sum_congr rfl fun t ht => ?_
  have hcount : 0 < ts.count t := List.count_pos_iff.mpr (mem_missing.mp ht).1
  unfold loadsOf
  split <;> omega

/-- Sharing loads changes what look-ups cost and nothing else. With shared loads the loads count up by the distinct
valid tables that were missing; one after the other they count up by as much, and by one for every further look-up of a
table whose load fails. -/
theorem sharing_changes_loads_only (c : SchemaCache) (g : Gateway) (ts : List TableRef) :
    (c.getShared g [] ts).1 = (c.getEach g ts).1 ∧
      (c.getShared g [] ts).2.1.held = (c.getEach g ts).2.1.held ∧
      (c.getShared g [] ts).2.1.loads = c.loads + (c.missing ts).card ∧
      (c.getEach g ts).2.1.loads =
        c.loads + ((c.missing ts).card + ∑ t ∈ (c.missing ts).filter (LoadFails g.answer), (ts.count t - 1)) := by
  have hlanded : c.Landed g.answer [] := nofun
  refine ⟨?_, getShared_held hlanded rfl rfl ts, ?_, ?_⟩
  · rw [getShared_fst hlanded, getEach_fst]
  · rw [getShared_loads]
    simp
  · rw [getEach_loads, sum_loadsOf]

example :
    let t : TableRef := ⟨"p", "d", "t"⟩
    let failing : Gateway := .new fun _ => .error .incomplete
    (empty.getShared failing [] [t, t, t]).2.1.loads = 1 ∧ (empty.getEach failing [t, t, t]).2.1.loads = 3 := by
  decide

end SchemaCache

end Audience
