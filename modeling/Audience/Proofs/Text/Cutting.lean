import Audience.Text.Split
import Mathlib.Data.List.Basic

/-!
Where a text is cut. A cut at a single character is at the first one (`splitOnce_singleton_eq_some_iff`). One at a longer
separator is where the separator stands when what comes before does not have its second character
(`splitOnce_append`), and never behind a place where it stands (`splitOnce_le`).
-/

namespace Audience.Text

variable {c d : Char} {cs before after sep : List Char}

theorem splitOnce_self (sep after : List Char) (h : sep ≠ []) : splitOnce sep (sep ++ after) = some ([], after) := by
  cases sep with
  | nil => exact absurd rfl h
  | cons c sep =>
    have hprefix : (c :: sep).isPrefixOf (c :: (sep ++ after)) = true :=
      List.isPrefixOf_iff_prefix.mpr (List.prefix_append (c :: sep) after)
    rw [List.cons_append, splitOnce, if_pos hprefix]
    simp

/-- The separator stands nowhere before the place where it is said to stand: there its second character is missing. -/
theorem splitOnce_append (hcd : d ≠ c) (hd : d ∉ before) (after : List Char) :
    splitOnce (c :: d :: sep) (before ++ (c :: d :: sep ++ after)) = some (before, after) := by
  induction before with
  | nil => exact splitOnce_self _ after (List.cons_ne_nil _ _)
  | cons b before ih =>
    obtain ⟨-, hbefore⟩ := not_or.mp (mt List.mem_cons.mpr hd)
    have hprefix : ¬(c :: d :: sep).isPrefixOf (b :: (before ++ (c :: d :: sep ++ after))) = true := by
      intro h
      obtain ⟨-, hrest⟩ := List.cons_prefix_cons.mp (List.isPrefixOf_iff_prefix.mp h)
      cases before with
      | nil =>
        obtain ⟨heq, -⟩ := List.cons_prefix_cons.mp hrest
        exact hcd heq
      | cons e before =>
        obtain ⟨rfl, -⟩ := List.cons_prefix_cons.mp hrest
        exact hbefore List.mem_cons_self
    rw [List.cons_append, splitOnce, if_neg hprefix, ih hbefore]
    rfl

/-- What comes behind a text does not change where it is cut. -/
theorem splitOnce_extend (h : splitOnce sep cs = some (before, after)) (more : List Char) :
    splitOnce sep (cs ++ more) = some (before, after ++ more) := by
  induction cs generalizing before with
  | nil =>
    obtain ⟨hsep, heq⟩ := Option.ite_none_right_eq_some.mp h
    cases heq
    subst hsep
    cases more <;> rfl
  | cons b cs ih =>
    rw [splitOnce] at h
    rw [List.cons_append, splitOnce]
    split at h
    · next hprefix =>
      cases h
      have hle : sep.length ≤ (b :: cs).length := (List.isPrefixOf_iff_prefix.mp hprefix).length_le
      have hprefix' : sep.isPrefixOf (b :: (cs ++ more)) = true :=
        List.isPrefixOf_iff_prefix.mpr ((List.isPrefixOf_iff_prefix.mp hprefix).trans (List.prefix_append (b :: cs) more))
      rw [if_pos hprefix', ← List.cons_append, List.drop_append_of_le_length hle]
    · next hprefix =>
      obtain ⟨⟨front, rest⟩, hsplit, heq⟩ := Option.map_eq_some_iff.mp h
      cases heq
      have hprefix' : ¬sep.isPrefixOf (b :: (cs ++ more)) = true := by
        intro hmore
        refine hprefix (List.isPrefixOf_iff_prefix.mpr (List.prefix_of_prefix_length_le
          (List.isPrefixOf_iff_prefix.mp hmore) (List.prefix_append (b :: cs) more) ?_))
        rw [append_of_splitOnce hsplit]
        simp only [List.length_cons, List.length_append]
        omega
      rw [if_neg hprefix', ih hsplit]
      rfl

/-- A text is cut no later than at a place where the separator stands. -/
theorem splitOnce_le (before sep after : List Char) :
    ∃ front rest, splitOnce sep (before ++ (sep ++ after)) = some (front, rest) ∧ front.length ≤ before.length := by
  induction before with
  | nil =>
    cases sep with
    | nil => cases after <;> exact ⟨[], _, rfl, Nat.le_refl _⟩
    | cons c sep => exact ⟨[], after, splitOnce_self _ after (List.cons_ne_nil _ _), Nat.le_refl _⟩
  | cons b before ih =>
    obtain ⟨front, rest, hsplit, hle⟩ := ih
    rw [List.cons_append, splitOnce]
    split
    · exact ⟨[], _, rfl, Nat.zero_le _⟩
    · exact ⟨b :: front, rest, by rw [hsplit]; rfl, Nat.succ_le_succ hle⟩

/-- Two characters that stand in a text stand at one place, or one of them stands before the other. -/
theorem append_cons_cases {front rest : List Char} (h : front ++ c :: rest = before ++ d :: after) :
    (front = before ∧ c = d ∧ rest = after) ∨
      (∃ between, front = before ++ d :: between ∧ after = between ++ c :: rest) ∨
      ∃ between, before = front ++ c :: between ∧ rest = between ++ d :: after := by
  rcases List.append_eq_append_iff.mp h with ⟨between, hbefore, hrest⟩ | ⟨between, hfront, hafter⟩
  · cases between with
    | nil =>
      obtain ⟨rfl, rfl⟩ := List.cons.inj hrest
      exact .inl ⟨by rw [hbefore, List.append_nil], rfl, rfl⟩
    | cons e between =>
      obtain ⟨rfl, rfl⟩ := List.cons.inj hrest
      exact .inr (.inr ⟨between, hbefore, rfl⟩)
  · cases between with
    | nil =>
      obtain ⟨rfl, rfl⟩ := List.cons.inj hafter
      exact .inl ⟨by rw [hfront, List.append_nil], rfl, rfl⟩
    | cons e between =>
      obtain ⟨rfl, rfl⟩ := List.cons.inj hafter
      exact .inr (.inl ⟨between, hfront, rfl⟩)

/-- A text is cut at the first place of a character. -/
theorem splitOnce_singleton_eq_some_iff :
    splitOnce [c] cs = some (before, after) ↔ cs = before ++ c :: after ∧ c ∉ before := by
  induction cs generalizing before with
  | nil => simp [splitOnce]
  | cons b cs ih =>
    by_cases hb : c = b
    · subst hb
      have hself : splitOnce [c] (c :: cs) = some ([], cs) := splitOnce_self [c] cs (List.cons_ne_nil _ _)
      rw [hself]
      constructor
      · intro h
        obtain ⟨rfl, rfl⟩ := Prod.mk.inj (Option.some.inj h)
        exact ⟨rfl, List.not_mem_nil⟩
      · rintro ⟨hcs, hbefore⟩
        cases before with
        | nil =>
          obtain rfl := (List.cons.inj hcs).2
          rfl
        | cons e before =>
          obtain rfl := (List.cons.inj hcs).1
          exact absurd List.mem_cons_self hbefore
    · have hprefix : ¬[c].isPrefixOf (b :: cs) = true := fun h =>
        hb (List.cons_prefix_cons.mp (List.isPrefixOf_iff_prefix.mp h)).1
      rw [splitOnce, if_neg hprefix, Option.map_eq_some_iff]
      constructor
      · rintro ⟨⟨front, rest⟩, hsplit, heq⟩
        obtain ⟨rfl, rfl⟩ := Prod.mk.inj heq
        obtain ⟨rfl, hfront⟩ := ih.mp hsplit
        exact ⟨rfl, fun h => (List.mem_cons.mp h).elim hb hfront⟩
      · rintro ⟨hcs, hbefore⟩
        cases before with
        | nil => exact absurd (List.cons.inj hcs).1.symm hb
        | cons e before =>
          obtain ⟨rfl, rfl⟩ := List.cons.inj hcs
          exact ⟨(before, after), ih.mpr ⟨rfl, fun h => hbefore (List.mem_cons_of_mem _ h)⟩, rfl⟩

end Audience.Text
