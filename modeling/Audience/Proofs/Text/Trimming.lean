import Audience.Text.Blank
import Mathlib.Data.List.TakeWhile

/-!
Texts between blanks. Trimming takes the blanks off both ends and nothing else: a text is what is left of it between
blanks (`exists_blanks_trimChars`), and a text without blanks at its ends is left of any blanks around it
(`trimChars_between`).
-/

namespace Audience.Text

variable {cs before after rest : List Char} {c : Char}

/-- Nothing but blanks. -/
def Blanks (cs : List Char) : Prop := ∀ c ∈ cs, isBlank c = true

theorem blanks_append_iff : Blanks (before ++ after) ↔ Blanks before ∧ Blanks after := List.forall_mem_append

theorem blanks_nil : Blanks [] := by
  intro c hc
  cases hc

theorem Blanks.reverse (h : Blanks cs) : Blanks cs.reverse := fun c hc => h c (List.mem_reverse.mp hc)

/-- There is no blank at either end. -/
structure Trimmed (cs : List Char) : Prop where
  head : ∀ c ∈ cs.head?, isBlank c = false
  last : ∀ c ∈ cs.getLast?, isBlank c = false

theorem trimmed_of_no_blank (h : ∀ c ∈ cs, isBlank c = false) : Trimmed cs where
  head := fun c hc => h c (List.mem_of_mem_head? hc)
  last := fun c hc => h c (List.mem_of_mem_getLast? hc)

/-! ### The front -/

theorem trimStartChars_append (h : Blanks before) (cs : List Char) :
    trimStartChars (before ++ cs) = trimStartChars cs := List.dropWhile_append_of_pos h

theorem trimStartChars_of_head? (h : ∀ c ∈ cs.head?, isBlank c = false) : trimStartChars cs = cs := by
  cases cs with
  | nil => rfl
  | cons c cs => exact trimStartChars_of_head (h c rfl)

theorem exists_blanks_trimStartChars (cs : List Char) : ∃ before, Blanks before ∧ cs = before ++ trimStartChars cs :=
  ⟨cs.takeWhile isBlank, List.all_eq_true.mp List.all_takeWhile, List.takeWhile_append_dropWhile.symm⟩

theorem head?_trimStartChars : ∀ c ∈ (trimStartChars cs).head?, isBlank c = false := by
  intro c hc
  obtain ⟨rest, hrest⟩ := List.head?_eq_some_iff.mp hc
  exact head_trimStartChars hrest

/-! ### The end -/

theorem trimEndChars_append (h : Blanks after) (cs : List Char) : trimEndChars (cs ++ after) = trimEndChars cs := by
  rw [trimEndChars, List.reverse_append, List.dropWhile_append_of_pos h.reverse, trimEndChars]

theorem exists_blanks_trimEndChars (cs : List Char) : ∃ after, Blanks after ∧ cs = trimEndChars cs ++ after := by
  obtain ⟨before, hbefore, hcs⟩ := exists_blanks_trimStartChars cs.reverse
  refine ⟨before.reverse, hbefore.reverse, ?_⟩
  have hreverse := congrArg List.reverse hcs
  rwa [List.reverse_reverse, List.reverse_append] at hreverse

theorem getLast?_trimEndChars : ∀ c ∈ (trimEndChars cs).getLast?, isBlank c = false := by
  intro c hc
  rw [trimEndChars, List.getLast?_reverse] at hc
  exact head?_trimStartChars c hc

/-- A character that is no blank keeps what stands before it. -/
theorem trimEndChars_append_of_getLast? (h : cs.getLast? = some c) (hc : isBlank c = false) (rest : List Char) :
    trimEndChars (cs ++ rest) = cs ++ trimEndChars rest := by
  obtain ⟨xs, rfl⟩ := List.getLast?_eq_some_iff.mp h
  rw [trimEndChars, List.reverse_append, List.dropWhile_append]
  split
  · next hempty =>
    rw [List.reverse_append, List.reverse_singleton, List.singleton_append,
      List.dropWhile_cons_of_neg (by simp [hc]), trimEndChars, List.isEmpty_iff.mp hempty]
    simp
  · rw [List.reverse_append, List.reverse_reverse, trimEndChars]

/-- What has more than blanks keeps what stands before it. -/
theorem trimEndChars_append_of_not_blanks (h : ¬Blanks rest) (cs : List Char) :
    trimEndChars (cs ++ rest) = cs ++ trimEndChars rest := by
  rw [trimEndChars, List.reverse_append, List.dropWhile_append]
  split
  · next hempty =>
    rw [List.isEmpty_iff, List.dropWhile_eq_nil_iff] at hempty
    exact absurd (fun c hc => hempty c (List.mem_reverse.mpr hc)) h
  · rw [List.reverse_append, List.reverse_reverse, trimEndChars]

/-- What is left is the start of the text. -/
theorem trimEndChars_eq_nil_or_head? (cs : List Char) : trimEndChars cs = [] ∨ (trimEndChars cs).head? = cs.head? := by
  obtain ⟨after, -, hcs⟩ := exists_blanks_trimEndChars cs
  cases hleft : trimEndChars cs with
  | nil => exact .inl rfl
  | cons d rest =>
    rw [hleft] at hcs
    exact .inr (by rw [hcs]; rfl)

/-! ### Both ends -/

theorem trimmed_trimChars (cs : List Char) : Trimmed (trimChars cs) where
  head := by
    intro c hc
    rcases trimEndChars_eq_nil_or_head? (trimStartChars cs) with hnil | hhead
    · rw [trimChars, hnil] at hc
      cases hc
    · rw [trimChars, hhead] at hc
      exact head?_trimStartChars c hc
  last := getLast?_trimEndChars

theorem exists_blanks_trimChars (cs : List Char) :
    ∃ before after, Blanks before ∧ Blanks after ∧ cs = before ++ (trimChars cs ++ after) := by
  obtain ⟨before, hbefore, hcs⟩ := exists_blanks_trimStartChars cs
  obtain ⟨after, hafter, hstart⟩ := exists_blanks_trimEndChars (trimStartChars cs)
  exact ⟨before, after, hbefore, hafter, hcs.trans (congrArg (before ++ ·) hstart)⟩

/-- Blanks in front go, and what starts with no blank stays. -/
theorem trimChars_append (hbefore : Blanks before) (hhead : ∀ c ∈ cs.head?, isBlank c = false) :
    trimChars (before ++ cs) = trimEndChars cs := by
  rw [trimChars, trimStartChars_append hbefore, trimStartChars_of_head? hhead]

theorem Trimmed.trimEndChars_eq (h : Trimmed cs) : trimEndChars cs = cs := by
  cases hlast : cs.getLast? with
  | none =>
    obtain rfl := List.getLast?_eq_none_iff.mp hlast
    rfl
  | some c =>
    have htrim := trimEndChars_append_of_getLast? hlast (h.last c hlast) []
    rwa [List.append_nil, show trimEndChars [] = [] from rfl, List.append_nil] at htrim

theorem trimChars_between (hbefore : Blanks before) (hafter : Blanks after) (h : Trimmed cs) :
    trimChars (before ++ (cs ++ after)) = cs := by
  cases cs with
  | nil =>
    have hgone := trimStartChars_append hafter []
    rw [List.append_nil] at hgone
    rw [List.nil_append, trimChars, trimStartChars_append hbefore, hgone]
    rfl
  | cons c cs =>
    have hhead : ∀ d ∈ (c :: cs ++ after).head?, isBlank d = false := fun d hd => h.head d hd
    rw [trimChars_append hbefore hhead, trimEndChars_append hafter, h.trimEndChars_eq]

theorem Trimmed.trimChars_eq (h : Trimmed cs) : trimChars cs = cs := by
  have hbetween := trimChars_between blanks_nil blanks_nil h
  rwa [List.nil_append, List.append_nil] at hbetween

/-- Further blanks around a text change nothing of what is left of it. -/
theorem trimChars_padded (hbefore : Blanks before) (hafter : Blanks after) (cs : List Char) :
    trimChars (before ++ (cs ++ after)) = trimChars cs := by
  obtain ⟨front, back, hfront, hback, hcs⟩ := exists_blanks_trimChars cs
  have hbetween := trimChars_between (blanks_append_iff.mpr ⟨hbefore, hfront⟩) (blanks_append_iff.mpr ⟨hback, hafter⟩)
    (trimmed_trimChars cs)
  have hassoc : before ++ (cs ++ after) = (before ++ front) ++ (trimChars cs ++ (back ++ after)) := by
    conv => lhs; rw [hcs]
    simp only [List.append_assoc]
  rw [hassoc, hbetween]

/-! ### Texts between blanks -/

/-- The second text is the first one between blanks. -/
def Padded (s padded : String) : Prop :=
  ∃ before after, Blanks before ∧ Blanks after ∧ padded.toList = before ++ (s.toList ++ after)

theorem Padded.refl (s : String) : Padded s s := ⟨[], [], blanks_nil, blanks_nil, by simp⟩

theorem Padded.trimChars_eq {s padded : String} (h : Padded s padded) (hs : Trimmed s.toList) :
    trimChars padded.toList = s.toList := by
  obtain ⟨before, after, hbefore, hafter, hpadded⟩ := h
  rw [hpadded, trimChars_between hbefore hafter hs]

theorem Padded.trim_eq {s padded : String} (h : Padded s padded) (hs : Trimmed s.toList) : trim padded = s := by
  rw [trim, h.trimChars_eq hs, String.ofList_toList]

end Audience.Text
