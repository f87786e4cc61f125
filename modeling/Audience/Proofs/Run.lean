import Mathlib.Data.List.Basic

/-!
Runs of a system that takes one event after the other. Each event has an answer and leaves a state. A run is
known by the state it ends in, by its answers, and by its moments: the events with the states that they meet.
Two systems in a relation that every pair of steps keeps give the same answers.
-/

namespace Audience

namespace Run

section

variable {σ ε ρ : Type} (step : σ → ε → ρ × σ)

/-- The state after the events. -/
def after (s : σ) : List ε → σ
  | [] => s
  | e :: es => after (step s e).2 es

/-- The answers to the events, in order. -/
def replies (s : σ) : List ε → List ρ
  | [] => []
  | e :: es => (step s e).1 :: replies (step s e).2 es

/-- The events, each with the state that it meets. -/
def moments (s : σ) : List ε → List (σ × ε)
  | [] => []
  | e :: es => (s, e) :: moments (step s e).2 es

theorem after_append (s : σ) (es fs : List ε) : after step s (es ++ fs) = after step (after step s es) fs := by
  induction es generalizing s with
  | nil => rfl
  | cons e es ih => exact ih (step s e).2

theorem moments_append (s : σ) (es fs : List ε) :
    moments step s (es ++ fs) = moments step s es ++ moments step (after step s es) fs := by
  induction es generalizing s with
  | nil => rfl
  | cons e es ih => exact congrArg ((s, e) :: ·) (ih (step s e).2)

theorem mem_of_mem_moments {s : σ} {m : σ × ε} {es : List ε} (h : m ∈ moments step s es) : m.2 ∈ es := by
  induction es generalizing s with
  | nil => cases h
  | cons e es ih =>
    rcases List.mem_cons.mp h with rfl | h
    · exact List.mem_cons_self
    · exact List.mem_cons_of_mem _ (ih h)

/-- A moment of a run is met by the run over the events before it. -/
theorem moments_split {s t : σ} {e : ε} {es : List ε} {before later : List (σ × ε)}
    (h : moments step s es = before ++ (t, e) :: later) :
    ∃ fs, before = moments step s fs ∧ t = after step s fs := by
  induction before generalizing s es with
  | nil =>
    cases es with
    | nil => cases h
    | cons f es =>
      obtain ⟨hmoment, -⟩ := List.cons.inj h
      exact ⟨[], rfl, (Prod.mk.inj hmoment).1.symm⟩
  | cons m before ih =>
    cases es with
    | nil => cases h
    | cons f es =>
      obtain ⟨rfl, hrest⟩ := List.cons.inj h
      obtain ⟨fs, rfl, rfl⟩ := ih hrest
      exact ⟨f :: fs, rfl, rfl⟩

/-- What every step keeps holds at the end. -/
theorem after_induction {P : σ → Prop} (keeps : ∀ s e, P s → P (step s e).2) {s : σ} (h : P s) (es : List ε) :
    P (after step s es) := by
  induction es generalizing s with
  | nil => exact h
  | cons e es ih => exact ih (keeps s e h)

/-- What every step keeps of the moments before it and the state holds at the end. -/
theorem moments_induction {P : List (σ × ε) → σ → Prop}
    (keeps : ∀ before s e, P before s → P (before ++ [(s, e)]) (step s e).2) {s : σ} (h : P [] s) (es : List ε) :
    P (moments step s es) (after step s es) := by
  have hrun : ∀ before s, P before s → P (before ++ moments step s es) (after step s es) := by
    induction es with
    | nil =>
      intro before s h
      simpa [moments, after] using h
    | cons e es ih =>
      intro before s h
      have hstep := ih (before ++ [(s, e)]) (step s e).2 (keeps before s e h)
      rwa [List.append_assoc] at hstep
  exact hrun [] s h

end

/-! ### Events with times -/

variable {σ τ ω ρ : Type}

/-- No event is earlier than the one before it. -/
def Chronological (es : List (Nat × ω)) : Prop := es.Pairwise fun e f => e.1 ≤ f.1

instance (es : List (Nat × ω)) : Decidable (Chronological es) := inferInstanceAs (Decidable (es.Pairwise _))

/-- No event is earlier than the one before it, nor than the time. -/
def Since (now : Nat) (es : List (Nat × ω)) : Prop := (∀ e ∈ es, now ≤ e.1) ∧ Chronological es

theorem Chronological.since {es : List (Nat × ω)} (h : Chronological es) : Since 0 es :=
  ⟨fun _ _ => Nat.zero_le _, h⟩

theorem since_cons {now : Nat} {e : Nat × ω} {es : List (Nat × ω)} (h : Since now (e :: es)) :
    now ≤ e.1 ∧ Since e.1 es :=
  ⟨h.1 e List.mem_cons_self, List.pairwise_cons.mp h.2⟩

theorem exists_time (es : List (Nat × ω)) : ∃ now, ∀ e ∈ es, e.1 ≤ now := by
  induction es with
  | nil => exact ⟨0, fun _ he => by cases he⟩
  | cons e es ih =>
    obtain ⟨now, hall⟩ := ih
    refine ⟨max e.1 now, fun f hf => ?_⟩
    rcases List.mem_cons.mp hf with rfl | hf
    · exact Nat.le_max_left _ _
    · exact Nat.le_trans (hall f hf) (Nat.le_max_right _ _)

theorem Chronological.of_append {es fs : List (Nat × ω)} (h : Chronological (es ++ fs)) :
    Chronological es ∧ Chronological fs ∧ ∀ e ∈ es, ∀ f ∈ fs, e.1 ≤ f.1 :=
  List.pairwise_append.mp h

/-- A relation that lasts as time goes on and that every pair of steps keeps, with equal answers, makes two
runs over the same events answer alike. -/
theorem simulation {step : σ → Nat × ω → ρ × σ} {step' : τ → Nat × ω → ρ × τ} {R : Nat → σ → τ → Prop}
    (lasts : ∀ {now later s t}, now ≤ later → R now s t → R later s t)
    (keeps : ∀ {now s t} (op : ω), R now s t →
      (step s (now, op)).1 = (step' t (now, op)).1 ∧ R now (step s (now, op)).2 (step' t (now, op)).2)
    {now : Nat} {s : σ} {t : τ} (h : R now s t) {es : List (Nat × ω)} (hes : Since now es) :
    replies step s es = replies step' t es ∧
      ∀ later, now ≤ later → (∀ e ∈ es, e.1 ≤ later) → R later (after step s es) (after step' t es) := by
  induction es generalizing now s t with
  | nil => exact ⟨rfl, fun later hle _ => lasts hle h⟩
  | cons e es ih =>
    obtain ⟨hle, hes⟩ := since_cons hes
    obtain ⟨hreply, hstep⟩ := keeps e.2 (lasts hle h)
    obtain ⟨hreplies, hafter⟩ := ih hstep hes
    refine ⟨congrArg₂ List.cons hreply hreplies, fun later _ hall => ?_⟩
    exact hafter later (hall e List.mem_cons_self) fun f hf => hall f (List.mem_cons_of_mem _ hf)

end Run

end Audience
