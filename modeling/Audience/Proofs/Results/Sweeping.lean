import Audience.Proofs.Results.Refinement

/-!
Cleaning is not seen by reads. Two runs with the same operations but for the cleanings, which may stand anywhere
and be any number, read the same rows and count the same hits and misses. On journals: two of them are alike
when they are equal once swept (`Journal.Alike`); every operation keeps this, and a cleaning on one side too.
-/

namespace Audience

/-- The part of an answer that does not tell how many expired entries are held. -/
def CacheAnswer.seen : CacheAnswer → Option CacheAnswer
  | .deleted _ => none
  | .cleaned _ => none
  | .size _ => none
  | .stats figures => some (.stats { figures with size := 0 })
  | answer => some answer

/-- The operations other than cleaning. -/
def withoutCleaning (es : List (Nat × CacheOperation)) : List (Nat × CacheOperation) :=
  es.filter fun e => e.2 ≠ .clean

namespace Journal

/-- Equal but for records that are not fresh. -/
structure Alike (now : Nat) (j k : Journal) : Prop where
  left : Sound now j
  right : Sound now k
  swept : swept now j = swept now k

variable {j k : Journal} {now later : Nat}

theorem get_swept (h : Sound now j) (key : String) :
    ((swept now j).get key now).1 = (j.get key now).1 ∧
      swept now ((swept now j).get key now).2 = swept now (j.get key now).2 := by
  have hfind : ((swept now j).find? key).filter ((swept now j).fresh now) = (j.find? key).filter (j.fresh now) := by
    rw [find?_swept h]
    have hfresh : (swept now j).fresh now = j.fresh now := rfl
    rw [hfresh]
    cases j.find? key with
    | none => rfl
    | some r => cases hr : j.fresh now r <;> simp [Option.filter, hr]
  unfold get
  rw [hfind]
  have hidem := congrArg records (swept_swept (Nat.le_refl now) j)
  cases (j.find? key).filter (j.fresh now) with
  | some r => exact ⟨rfl, congrArg (fun l => { j with records := l, reads := j.reads ++ [true] }) hidem⟩
  | none => exact ⟨rfl, congrArg (fun l => { j with records := l, reads := j.reads ++ [false] }) hidem⟩

theorem delete_swept (j : Journal) (key : String) :
    swept now ((swept now j).delete key).2 = swept now (j.delete key).2 := by
  have hrecords : ((swept now j).others key).filter (j.fresh now) = (j.others key).filter (j.fresh now) := by
    simp only [others, swept, clean, List.filter_filter]
    exact List.filter_congr fun r _ => by cases j.fresh now r <;> simp
  exact congrArg (fun l => { j with records := l }) hrecords

/-- A swept journal answers what is seen as the journal itself, and they stay equal once swept. -/
theorem step_swept (h : Sound now j) (op : CacheOperation) :
    ((swept now j).step (now, op)).1.seen = (j.step (now, op)).1.seen ∧
      swept now ((swept now j).step (now, op)).2 = swept now (j.step (now, op)).2 := by
  have hidem := swept_swept (Nat.le_refl now) j
  cases op with
  | put key rows =>
    refine ⟨rfl, ?_⟩
    simp only [step]
    rw [swept_put h, swept_put h.swept, hidem]
  | get key =>
    obtain ⟨hfound, hafter⟩ := get_swept h key
    exact ⟨congrArg (fun rows => (CacheAnswer.found rows).seen) hfound, hafter⟩
  | delete key => exact ⟨rfl, delete_swept j key⟩
  | clear => exact ⟨rfl, rfl⟩
  | clean => exact ⟨rfl, congrArg (swept now) hidem⟩
  | size => exact ⟨rfl, hidem⟩
  | stats => exact ⟨rfl, hidem⟩

namespace Alike

theorem lasts (h : Alike now j k) (hle : now ≤ later) : Alike later j k where
  left := h.left.lasts hle
  right := h.right.lasts hle
  swept := by rw [← swept_swept hle j, ← swept_swept hle k, h.swept]

theorem reads (h : Alike now j k) : j.reads = k.reads := by
  show (Journal.swept now j).reads = (Journal.swept now k).reads
  rw [h.swept]

/-- An operation on both sides shows the same. -/
theorem step (h : Alike now j k) (op : CacheOperation) :
    (j.step (now, op)).1.seen = (k.step (now, op)).1.seen ∧
      Alike now (j.step (now, op)).2 (k.step (now, op)).2 := by
  obtain ⟨hj, hj'⟩ := step_swept h.left op
  obtain ⟨hk, hk'⟩ := step_swept h.right op
  rw [h.swept] at hj hj'
  exact ⟨hj.symm.trans hk, h.left.step op, h.right.step op, hj'.symm.trans hk'⟩

/-- A cleaning on one side shows nothing. -/
theorem clean (h : Alike now j k) : Alike now (j.clean now).2 k where
  left := h.left.swept
  right := h.right
  swept := (swept_swept (Nat.le_refl now) j).trans h.swept

/-- A run shows what the run without its cleanings shows. -/
theorem run (h : Alike now j k) {es : List (Nat × CacheOperation)} (hes : Run.Since now es) :
    (Run.replies Journal.step j es).filterMap CacheAnswer.seen =
        (Run.replies Journal.step k (withoutCleaning es)).filterMap CacheAnswer.seen ∧
      (Run.after Journal.step j es).reads = (Run.after Journal.step k (withoutCleaning es)).reads := by
  induction es generalizing now j k with
  | nil => exact ⟨rfl, h.reads⟩
  | cons e es ih =>
    obtain ⟨hle, hes⟩ := Run.since_cons hes
    obtain ⟨time, op⟩ := e
    have hnow := h.lasts hle
    by_cases hop : op = .clean
    · subst hop
      have hskip : withoutCleaning ((time, .clean) :: es) = withoutCleaning es :=
        List.filter_cons_of_neg (by simp)
      rw [hskip]
      exact ih hnow.clean hes
    · have hcons : withoutCleaning ((time, op) :: es) = (time, op) :: withoutCleaning es :=
        List.filter_cons_of_pos (by simpa using hop)
      obtain ⟨hseen, hstep⟩ := hnow.step op
      obtain ⟨hreplies, hreads⟩ := ih hstep hes
      rw [hcons]
      refine ⟨?_, hreads⟩
      simp only [Run.replies, List.filterMap_cons, hseen, hreplies]

end Alike

end Journal

namespace ResultCache

variable {es fs : List (Nat × CacheOperation)}

theorem seen_run_withoutCleaning (maxEntries timeToLive : Nat) (hes : Run.Chronological es) :
    (Run.replies step (new maxEntries timeToLive) es).filterMap CacheAnswer.seen =
        (Run.replies Journal.step (Journal.new maxEntries timeToLive) (withoutCleaning es)).filterMap CacheAnswer.seen ∧
      (Run.after step (new maxEntries timeToLive) es).hits =
        (Run.after Journal.step (Journal.new maxEntries timeToLive) (withoutCleaning es)).hits ∧
      (Run.after step (new maxEntries timeToLive) es).misses =
        (Run.after Journal.step (Journal.new maxEntries timeToLive) (withoutCleaning es)).misses := by
  obtain ⟨hreplies, hafter⟩ := represents_run maxEntries timeToLive hes
  obtain ⟨now, hall⟩ := Run.exists_time es
  obtain ⟨hrep, -⟩ := hafter now hall
  have hsound := Journal.sound_new maxEntries timeToLive 0
  have halike : Journal.Alike 0 (Journal.new maxEntries timeToLive) (Journal.new maxEntries timeToLive) :=
    ⟨hsound, hsound, rfl⟩
  obtain ⟨hseen, hreads⟩ := halike.run hes.since
  rw [hreplies, hrep.hits, hrep.misses]
  exact ⟨hseen, congrArg (List.count true) hreads, congrArg (List.count false) hreads⟩

/-- However the same operations are mixed with cleanings, every read finds the same rows, and the hits and
misses are the same. -/
theorem reads_do_not_see_cleaning (maxEntries timeToLive : Nat) (hes : Run.Chronological es)
    (hfs : Run.Chronological fs) (h : withoutCleaning es = withoutCleaning fs) :
    (Run.replies step (new maxEntries timeToLive) es).filterMap CacheAnswer.seen =
        (Run.replies step (new maxEntries timeToLive) fs).filterMap CacheAnswer.seen ∧
      (Run.after step (new maxEntries timeToLive) es).hits =
        (Run.after step (new maxEntries timeToLive) fs).hits ∧
      (Run.after step (new maxEntries timeToLive) es).misses =
        (Run.after step (new maxEntries timeToLive) fs).misses := by
  obtain ⟨hseen, hhits, hmisses⟩ := seen_run_withoutCleaning maxEntries timeToLive hes
  obtain ⟨hseen', hhits', hmisses'⟩ := seen_run_withoutCleaning maxEntries timeToLive hfs
  rw [h] at hseen hhits hmisses
  exact ⟨hseen.trans hseen'.symm, hhits.trans hhits'.symm, hmisses.trans hmisses'.symm⟩

/-- With room for two, the cleaning at 12 makes the room that storing `c` else takes from the expired `a`. -/
theorem reads_do_not_see_cleaning_when_full :
    @Run.Chronological CacheOperation [(0, .put "a" []), (5, .put "b" []), (12, .clean), (12, .put "c" []), (13, .get "b")] ∧
      @Run.Chronological CacheOperation [(0, .put "a" []), (5, .put "b" []), (12, .put "c" []), (13, .get "b")] ∧
      (Run.replies step (new 2 10)
          [(0, .put "a" []), (5, .put "b" []), (12, .clean), (12, .put "c" []), (13, .get "b")]).filterMap
            CacheAnswer.seen =
        (Run.replies step (new 2 10)
          [(0, .put "a" []), (5, .put "b" []), (12, .put "c" []), (13, .get "b")]).filterMap CacheAnswer.seen :=
  ⟨by decide, by decide, (reads_do_not_see_cleaning 2 10 (by decide) (by decide) rfl).1⟩

end ResultCache

end Audience
