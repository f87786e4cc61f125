import Audience.Proofs.Text.Trimming
import Audience.Text.Lowercase
import Mathlib

/-!
Lowercasing of plain texts. ASCII characters and blanks go to lower case as in ASCII, whatever stands beside them
(`lowerFrom_of_plain`). No other character becomes one of them, except that the Kelvin sign becomes a `k`
(`plain_of_lowerChar`); so a text whose lower case is plain and has no `k` was plain itself (`plain_of_lowerFrom`).
-/

namespace Audience.Text

variable {c d : Char} {cs ds : List Char}

/-- An ASCII character or a blank. -/
def Plain (c : Char) : Prop := c.toNat < 128 ∨ isBlank c = true

instance (c : Char) : Decidable (Plain c) := inferInstanceAs (Decidable (_ ∨ _))

/-- No blank is a letter of ASCII. -/
theorem isAlpha_of_isBlank (h : isBlank c = true) : c.isAlpha = false := by
  simp only [isBlank, Bool.or_eq_true, Bool.and_eq_true, decide_eq_true_eq, beq_iff_eq] at h
  simp [Char.isAlpha, Char.isUpper, Char.isLower, UInt32.le_iff_toNat_le]
  omega

theorem plain_of_isAlpha (h : c.isAlpha = true) : Plain c := by
  left
  simp [Char.isAlpha, Char.isUpper, Char.isLower, UInt32.le_iff_toNat_le] at h
  omega

theorem toLower_of_not_isAlpha (h : c.isAlpha = false) : c.toLower = c := by
  rw [Char.isAlpha, Bool.or_eq_false_iff] at h
  exact Char.toLower_eq_of_not_isUpper (by simp [h.1])

theorem plain_of_toLower (h : Plain c.toLower) : Plain c := by
  by_cases hletter : c.isAlpha = true
  · exact plain_of_isAlpha hletter
  · rwa [toLower_of_not_isAlpha (Bool.eq_false_of_not_eq_true hletter)] at h

/-! ### Runs of the table -/

/-- The code points of the blanks beyond ASCII. -/
def wideBlanks : List (Nat × Nat) :=
  [(0x85, 0x85), (0xA0, 0xA0), (0x1680, 0x1680), (0x2000, 0x200A), (0x2028, 0x2029), (0x202F, 0x202F), (0x205F, 0x205F),
    (0x3000, 0x3000)]

theorem exists_wideBlanks (h : isBlank c = true) (hc : 128 ≤ c.toNat) :
    ∃ blanks ∈ wideBlanks, blanks.1 ≤ c.toNat ∧ c.toNat ≤ blanks.2 := by
  simp only [isBlank, Bool.or_eq_true, Bool.and_eq_true, decide_eq_true_eq, beq_iff_eq] at h
  simp [wideBlanks]
  omega

/-- No code point of the range is one of a plain character. -/
def Clear (first last : Nat) : Prop := 128 ≤ first ∧ ∀ blanks ∈ wideBlanks, last < blanks.1 ∨ blanks.2 < first

instance (first last : Nat) : Decidable (Clear first last) := inferInstanceAs (Decidable (_ ∧ _))

theorem Clear.not_plain {first last : Nat} (h : Clear first last) (hfirst : first ≤ c.toNat) (hlast : c.toNat ≤ last) :
    ¬Plain c := by
  obtain ⟨hwide, hblanks⟩ := h
  rintro (hascii | hblank)
  · omega
  · obtain ⟨blanks, hmem, hlow, hhigh⟩ := exists_wideBlanks hblank (by omega)
    have hapart := hblanks blanks hmem
    omega

/-- The run of the ASCII letters. -/
def asciiRun : CaseRun := ⟨65, 90, 1, 32⟩

/-- A run beyond ASCII is from characters that are not plain to others that are not, the run of the Kelvin sign apart. -/
def CaseRun.Apart (r : CaseRun) : Prop :=
  Clear r.first r.last ∧ ((r.first = 0x212A ∧ r.last = 0x212A ∧ r.offset = -8383) ∨
    (Clear (r.first + r.offset).toNat (r.last + r.offset).toNat ∧
      (r.last + r.offset < 0xD800 ∨ (0xDFFF < r.first + r.offset ∧ r.last + r.offset < 0x110000))))

instance (r : CaseRun) : Decidable r.Apart := inferInstanceAs (Decidable (_ ∧ _))

theorem lowercaseRuns_eq : ∃ runs, lowercaseRuns = asciiRun :: runs ∧ ∀ r ∈ runs, r.Apart :=
  ⟨_, rfl, by decide +kernel⟩

theorem asciiRun_holds_iff : asciiRun.holds c.toNat = true ↔ c.isUpper = true := by
  simp only [CaseRun.holds, Bool.and_eq_true, decide_eq_true_eq]
  simp [asciiRun, Char.isUpper, UInt32.le_iff_toNat_le, Nat.mod_one]

/-- A character goes to lower case as in ASCII, or by a run beyond ASCII. -/
theorem lowerChar_cases (c : Char) : lowerChar c = c.toLower ∨
    ∃ r : CaseRun, r.Apart ∧ r.first ≤ c.toNat ∧ c.toNat ≤ r.last ∧ lowerChar c = Char.ofNat (c.toNat + r.offset).toNat := by
  obtain ⟨runs, hruns, hapart⟩ := lowercaseRuns_eq
  rw [lowerChar, hruns, List.find?_cons]
  by_cases hupper : c.isUpper = true
  · left
    rw [asciiRun_holds_iff.mpr hupper, Char.toLower_eq_of_isUpper hupper]
    rfl
  · rw [Bool.eq_false_of_not_eq_true (mt asciiRun_holds_iff.mp hupper)]
    cases hr : runs.find? (·.holds c.toNat) with
    | none => exact .inl (Char.toLower_eq_of_not_isUpper hupper).symm
    | some r =>
      right
      have hholds := List.find?_some hr
      simp only [CaseRun.holds, Bool.and_eq_true, decide_eq_true_eq] at hholds
      exact ⟨r, hapart r (List.mem_of_find?_eq_some hr), hholds.1.1, hholds.1.2, rfl⟩

/-! ### Single characters -/

theorem lowerChar_of_plain (h : Plain c) : lowerChar c = c.toLower := by
  rcases lowerChar_cases c with hlower | ⟨r, ⟨hclear, -⟩, hfirst, hlast, -⟩
  · exact hlower
  · exact absurd h (hclear.not_plain hfirst hlast)

theorem plain_of_lowerChar (h : Plain (lowerChar c)) (hk : lowerChar c ≠ 'k') : Plain c := by
  rcases lowerChar_cases c with hlower | ⟨r, ⟨-, hkelvin | ⟨hclear, hvalid⟩⟩, hfirst, hlast, hlower⟩
  · rw [hlower] at h
    exact plain_of_toLower h
  · obtain ⟨hlow, hhigh, hoffset⟩ := hkelvin
    have hcode : c.toNat = 0x212A := by omega
    rw [hlower, hcode, hoffset] at hk
    exact absurd rfl hk
  · have hcode : (lowerChar c).toNat = (c.toNat + r.offset).toNat := by
      rw [hlower, Char.toNat_ofNat, if_pos]
      unfold Nat.isValidChar
      omega
    have hwide := hclear.1
    exact absurd h (hclear.not_plain (by omega) (by omega))

/-! ### Texts -/

/-- A plain character goes to lower case by itself. -/
theorem lowerAt_of_plain (h : Plain c) (before after : List Char) : lowerAt before c after = [c.toLower] := by
  have hsigma : c ≠ 'Σ' := by
    rintro rfl
    exact absurd h (by decide)
  have hdotted : c ≠ 'İ' := by
    rintro rfl
    exact absurd h (by decide)
  rw [lowerAt, if_neg (by simpa using hsigma), if_neg (by simpa using hdotted), lowerChar_of_plain h]

theorem lowerFrom_append (h : ∀ c ∈ cs, Plain c) (before ds : List Char) :
    lowerFrom before (cs ++ ds) = cs.map Char.toLower ++ lowerFrom (cs.reverse ++ before) ds := by
  induction cs generalizing before with
  | nil => rfl
  | cons c cs ih =>
    obtain ⟨hc, hcs⟩ := List.forall_mem_cons.mp h
    rw [List.cons_append, lowerFrom, lowerAt_of_plain hc, ih hcs]
    simp

theorem lowerFrom_of_plain (h : ∀ c ∈ cs, Plain c) (before : List Char) :
    lowerFrom before cs = cs.map Char.toLower := by
  have happend := lowerFrom_append h before []
  rwa [List.append_nil, lowerFrom, List.append_nil] at happend

theorem plain_of_lowerAt {before after : List Char} (h : ∀ d ∈ lowerAt before c after, Plain d ∧ d ≠ 'k') : Plain c := by
  unfold lowerAt at h
  split at h
  · have hlower := (List.forall_mem_singleton.mp h).1
    split at hlower
    · exact absurd hlower (by decide)
    · exact absurd hlower (by decide)
  · split at h
    · exact absurd (h '\u0307' (List.mem_cons_of_mem _ List.mem_cons_self)).1 (by decide)
    · obtain ⟨hplain, hk⟩ := List.forall_mem_singleton.mp h
      exact plain_of_lowerChar hplain hk

/-- A text that goes to plain characters was plain, the Kelvin sign apart. -/
theorem plain_of_lowerFrom {before : List Char} (h : ∀ d ∈ lowerFrom before cs, Plain d ∧ d ≠ 'k') :
    ∀ c ∈ cs, Plain c := by
  induction cs generalizing before with
  | nil => simp
  | cons c cs ih =>
    rw [lowerFrom, List.forall_mem_append] at h
    exact List.forall_mem_cons.mpr ⟨plain_of_lowerAt h.1, ih h.2⟩

/-! ### Letters in any case -/

/-- The characters are the letters, each as it is or as its capital. -/
def InAnyCase (letters cs : List Char) : Prop := List.Forall₂ (fun letter c => c = letter ∨ c = letter.toUpper) letters cs

theorem InAnyCase.refl (letters : List Char) : InAnyCase letters letters :=
  List.forall₂_same.mpr fun _ _ => .inl rfl

theorem inAnyCase_iff {letters : List Char} (h : ∀ c ∈ letters, ¬c.isUpper = true) :
    InAnyCase letters cs ↔ cs.map Char.toLower = letters := by
  unfold InAnyCase
  induction letters generalizing cs with
  | nil => simp
  | cons letter letters ih =>
    obtain ⟨hletter, hletters⟩ := List.forall_mem_cons.mp h
    have hlower : letter.toLower = letter := Char.toLower_eq_of_not_isUpper hletter
    cases cs with
    | nil => simp
    | cons c cs =>
      rw [List.forall₂_cons, List.map_cons, List.cons.injEq, ih hletters]
      refine and_congr_left' ⟨?_, ?_⟩
      · rintro (rfl | rfl)
        · exact hlower
        · rw [Char.toLower_toUpper_eq_toLower, hlower]
      · rintro rfl
        by_cases hupper : c.isUpper = true
        · right
          rw [Char.toUpper_toLower_eq_toUpper,
            Char.toUpper_eq_of_not_isLower fun hlow => Char.not_isLower_of_isUpper hupper hlow]
        · exact .inl (Char.toLower_eq_of_not_isUpper hupper).symm

/-- No letter is a blank. -/
theorem trimmed_of_isAlpha (h : ∀ c ∈ cs, c.isAlpha = true) : Trimmed cs := by
  refine trimmed_of_no_blank fun c hc => ?_
  by_contra hblank
  have hno := isAlpha_of_isBlank (Bool.eq_true_of_not_eq_false hblank)
  rw [h c hc] at hno
  cases hno

theorem InAnyCase.isAlpha {letters : List Char} (hletters : ∀ c ∈ letters, c.isLower = true)
    (h : InAnyCase letters cs) : ∀ c ∈ cs, c.isAlpha = true := by
  intro c hc
  rw [inAnyCase_iff fun c hc => Char.not_isUpper_of_isLower (hletters c hc)] at h
  have hlower := hletters c.toLower (h ▸ List.mem_map_of_mem hc)
  rwa [Char.isLower_toLower_eq_isAlpha] at hlower

/-- A text without capitals and blanks has no blanks in any case. -/
theorem InAnyCase.trimmed {letters : List Char} (hletters : ∀ c ∈ letters, ¬c.isUpper = true ∧ isBlank c = false)
    (h : InAnyCase letters cs) : Trimmed cs := by
  rw [inAnyCase_iff fun c hc => (hletters c hc).1] at h
  refine trimmed_of_no_blank fun c hc => ?_
  by_contra hblank
  have hletter : isBlank c.toLower = false := (hletters _ (h ▸ List.mem_map_of_mem hc)).2
  rw [toLower_of_not_isAlpha (isAlpha_of_isBlank (Bool.eq_true_of_not_eq_false hblank))] at hletter
  exact hblank hletter

/-! ### No letters -/

/-- A plain character that is no letter. -/
def Caseless (c : Char) : Prop := Plain c ∧ c.isAlpha = false

instance (c : Char) : Decidable (Caseless c) := inferInstanceAs (Decidable (_ ∧ _))

theorem caseless_of_isBlank (h : isBlank c = true) : Caseless c := ⟨.inr h, isAlpha_of_isBlank h⟩

theorem caseless_of_isDigit (h : c.isDigit = true) : Caseless c := by
  have hrange : 48 ≤ c.toNat ∧ c.toNat ≤ 57 := Char.isDigit_iff_toNat.mp h
  refine ⟨.inl (by omega), ?_⟩
  simp [Char.isAlpha, Char.isUpper, Char.isLower, UInt32.le_iff_toNat_le]
  omega

theorem Caseless.ne (h : Caseless c) (hd : d.isAlpha = true) : c ≠ d := by
  rintro rfl
  rw [h.2] at hd
  cases hd

/-- Characters that are no letters are their own lower case, and no other character's. -/
theorem map_toLower_eq_iff (h : ∀ c ∈ ds, Caseless c) : cs.map Char.toLower = ds ↔ cs = ds := by
  constructor
  · rintro rfl
    have hkept : ∀ c ∈ cs, c.toLower = c := by
      intro c hc
      have hlower := (h c.toLower (List.mem_map_of_mem hc)).2
      rw [Char.isAlpha_toLower_eq_isAlpha] at hlower
      exact toLower_of_not_isAlpha hlower
    exact (List.map_id cs).symm.trans (List.map_congr_left hkept).symm
  · rintro rfl
    exact (List.map_congr_left fun c hc => toLower_of_not_isAlpha (h c hc).2).trans (List.map_id cs)

end Audience.Text
