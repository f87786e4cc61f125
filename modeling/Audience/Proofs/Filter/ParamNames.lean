import Audience.Filter.Condition

/-!
The names of parameters. A condition binds its values under the name of its position with an ending, and both
can be read off the name: the digits end where the ending starts. A predicate refers to its parameter after the
last `@` of its text, so a parameter is renamed there and nowhere else, whatever the column is called.
-/

namespace Audience

namespace Condition

/-- What follows the name of a position in the names of its parameters. -/
def endings : List String := ["", "_month", "_day"]

/-- The values of a condition, each with the ending of its name. -/
def bindings : Condition → List (String × Value)
  | anything => []
  | equals _ value => [("", value)]
  | onDate _ date => [("", .string date)]
  | onDayMonth _ day =>
    [("_month", .int64 (Int64.ofNat day.month)), ("_day", .int64 (Int64.ofNat day.day))]

variable {c : Condition} {ending other : String} {v w : Value} {i j : Nat}

theorem params_eq_map (position : Nat) (c : Condition) :
    c.params position = c.bindings.map fun b => (paramName position ++ b.1, b.2) := by
  cases c <;> simp [params, bindings]

theorem ending_of_mem_bindings {b : String × Value} (h : b ∈ c.bindings) : b.1 ∈ endings := by
  revert b
  cases c <;> simp [bindings, endings]

theorem eq_of_mem_bindings (hv : (ending, v) ∈ c.bindings) (hw : (ending, w) ∈ c.bindings) : v = w := by
  cases c with
  | anything => cases hv
  | equals column value => simp_all [bindings]
  | onDate column date => simp_all [bindings]
  | onDayMonth column day =>
    simp only [bindings, List.mem_cons, Prod.mk.injEq, List.not_mem_nil, or_false] at hv hw
    rcases hv with ⟨rfl, rfl⟩ | ⟨rfl, rfl⟩ <;> rcases hw with ⟨hending, rfl⟩ | ⟨hending, rfl⟩
    · rfl
    · exact absurd hending (by decide)
    · exact absurd hending (by decide)
    · rfl

/-! ### Reading a name -/

theorem takeWhile_isDigit_of_mem_endings (h : ending ∈ endings) : ending.toList.takeWhile Char.isDigit = [] := by
  simp only [endings, List.mem_cons, List.not_mem_nil, or_false] at h
  rcases h with rfl | rfl | rfl <;> decide

theorem takeWhile_isDigit_toString_append (position : Nat) (h : ending ∈ endings) :
    (toString position ++ ending).toList.takeWhile Char.isDigit = Nat.toDigits 10 position := by
  have hdigits : ∀ ch ∈ Nat.toDigits 10 position, ch.isDigit := fun ch hch =>
    Nat.isDigit_of_mem_toDigits (by decide) (by decide) hch
  rw [String.toList_append, Nat.toString_eq_repr, Nat.toList_repr, List.takeWhile_append_of_pos hdigits,
    takeWhile_isDigit_of_mem_endings h, List.append_nil]

/-- A name tells its position and its ending. -/
theorem paramName_append_inj (h : ending ∈ endings) (h' : other ∈ endings)
    (heq : paramName i ++ ending = paramName j ++ other) : i = j ∧ ending = other := by
  have hrest : toString i ++ ending = toString j ++ other := by
    rw [paramName, paramName, String.append_assoc, String.append_assoc] at heq
    exact (String.append_right_inj _).mp heq
  have hdigits := congrArg (fun s => s.toList.takeWhile Char.isDigit) hrest
  simp only [takeWhile_isDigit_toString_append _ h, takeWhile_isDigit_toString_append _ h'] at hdigits
  have hposition : i = j := by
    simpa only [Nat.ofDigitChars_ten_toDigits] using congrArg (fun ds => Nat.ofDigitChars 10 ds 0) hdigits
  subst hposition
  exact ⟨rfl, (String.append_right_inj _).mp hrest⟩

/-- A parameter of a position is a value of its condition. -/
theorem mem_params_iff (h : ending ∈ endings) :
    (paramName i ++ ending, v) ∈ c.params j ↔ i = j ∧ (ending, v) ∈ c.bindings := by
  rw [params_eq_map, List.mem_map]
  constructor
  · rintro ⟨⟨other, w⟩, hw, heq⟩
    obtain ⟨hname, rfl⟩ := Prod.mk.inj heq
    obtain ⟨rfl, rfl⟩ := paramName_append_inj (ending_of_mem_bindings hw) h hname
    exact ⟨rfl, hw⟩
  · rintro ⟨rfl, hv⟩
    exact ⟨(ending, v), hv, rfl⟩

theorem exists_ending_of_mem_params {name : String} (h : (name, v) ∈ c.params i) :
    ∃ ending ∈ endings, name = paramName i ++ ending := by
  rw [params_eq_map, List.mem_map] at h
  obtain ⟨⟨ending, w⟩, hw, heq⟩ := h
  exact ⟨ending, ending_of_mem_bindings hw, (Prod.mk.inj heq).1.symm⟩

/-! ### Renaming -/

/-- The text with another name after its last `@`, in place of an old one that the text after it starts with. -/
def renameChars (old new : List Char) : List Char → List Char
  | [] => []
  | ch :: rest =>
    if ch = '@' ∧ '@' ∉ rest then ch :: (if old.isPrefixOf rest then new ++ rest.drop old.length else rest)
    else ch :: renameChars old new rest

/-- The predicate with its parameter's name starting anew. -/
def renameParam (old new predicate : String) : String :=
  String.ofList (renameChars old.toList new.toList predicate.toList)

theorem renameChars_append (old new before after : List Char) (hold : '@' ∉ old) (hafter : '@' ∉ after) :
    renameChars old new (before ++ '@' :: (old ++ after)) = before ++ '@' :: (new ++ after) := by
  induction before with
  | nil => simp [renameChars, hold, hafter]
  | cons ch before ih => simp [renameChars, ih]

theorem renameChars_of_not_mem {old new cs : List Char} (h : '@' ∉ cs) : renameChars old new cs = cs := by
  induction cs with
  | nil => rfl
  | cons ch rest ih =>
    obtain ⟨hch, hrest⟩ := not_or.mp (mt List.mem_cons.mpr h)
    rw [renameChars, if_neg (fun hat => hch hat.1.symm), ih hrest]

theorem not_mem_paramName (position : Nat) : '@' ∉ (paramName position).toList := by
  intro h
  rw [paramName, String.toList_append, List.mem_append, Nat.toString_eq_repr, Nat.toList_repr] at h
  rcases h with h | h
  · revert h
    decide
  · exact absurd (Nat.isDigit_of_mem_toDigits (by decide) (by decide) h) (by decide)

theorem renameParam_at (i j : Nat) (before ending : String) (h : '@' ∉ ending.toList) :
    renameParam (paramName i) (paramName j) (before ++ "@" ++ paramName i ++ ending) =
      before ++ "@" ++ paramName j ++ ending := by
  apply String.toList_injective
  simpa [renameParam] using
    renameChars_append (paramName i).toList (paramName j).toList before.toList ending.toList (not_mem_paramName i) h

/-- The predicates of a condition at two positions differ in the names of their parameters only. -/
theorem predicates_eq_map_renameParam (i j : Nat) (c : Condition) :
    c.predicates j = (c.predicates i).map (renameParam (paramName i) (paramName j)) := by
  cases c with
  | anything =>
    have h : renameParam (paramName i) (paramName j) alwaysTrue = alwaysTrue :=
      congrArg String.ofList (renameChars_of_not_mem (by decide))
    simp only [predicates, List.map_cons, List.map_nil, h]
  | equals column value =>
    have h := renameParam_at i j (column ++ " = ") "" (by decide)
    simpa [predicates, String.append_assoc] using h.symm
  | onDate column date =>
    have h := renameParam_at i j ("DATE(" ++ column ++ ") = ") "" (by decide)
    simpa [predicates, String.append_assoc] using h.symm
  | onDayMonth column day =>
    have hmonth := renameParam_at i j ("EXTRACT(MONTH FROM DATE(" ++ column ++ ")) = ") "_month" (by decide)
    have hday := renameParam_at i j ("EXTRACT(DAY FROM DATE(" ++ column ++ ")) = ") "_day" (by decide)
    simpa [predicates, String.append_assoc] using And.intro hmonth.symm hday.symm

end Condition

end Audience
