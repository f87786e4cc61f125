/-!
Cutting a text at the first place where a separator stands. `append_of_splitOnce` says that nothing is lost
but the separator, and `splitOnce_eq_none_iff` that there is no cut only where the separator is absent.
-/

namespace Audience.Text

/-- The characters before and after the first place where `sep` stands. -/
def splitOnce (sep : List Char) : List Char → Option (List Char × List Char)
  | [] => if sep = [] then some ([], []) else none
  | c :: cs =>
    if sep.isPrefixOf (c :: cs) then some ([], (c :: cs).drop sep.length)
    else (splitOnce sep cs).map fun (before, after) => (c :: before, after)

theorem append_of_splitOnce {sep cs before after : List Char} (h : splitOnce sep cs = some (before, after)) :
    cs = before ++ sep ++ after := by
  induction cs generalizing before after with
  | nil =>
    simp only [splitOnce] at h
    split at h
    · next hs => cases h; simp [hs]
    · cases h
  | cons c cs ih =>
    simp only [splitOnce] at h
    split at h
    · next hp =>
      cases h
      obtain ⟨t, ht⟩ := List.isPrefixOf_iff_prefix.mp hp
      simp [← ht]
    · simp only [Option.map_eq_some_iff, Prod.exists] at h
      obtain ⟨b, a, hba, heq⟩ := h
      cases heq
      simp [ih hba]

/-- Whether `part` stands somewhere in the characters. -/
def occursIn (part : List Char) : List Char → Bool
  | [] => part.isEmpty
  | c :: cs => part.isPrefixOf (c :: cs) || occursIn part cs

theorem splitOnce_eq_none_iff {sep cs : List Char} : splitOnce sep cs = none ↔ occursIn sep cs = false := by
  induction cs with
  | nil => cases sep <;> simp [splitOnce, occursIn]
  | cons c cs ih =>
    by_cases h : sep.isPrefixOf (c :: cs) = true
    · simp [splitOnce, occursIn, h]
    · simp [splitOnce, occursIn, h, ih]

end Audience.Text
