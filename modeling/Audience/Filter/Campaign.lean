import Audience.Text.Blank

/-!
The kind of a campaign and its send mode. Both come as text: the kind under the names that campaigns use, the
mode as `M0` or `M1` in any case and between blanks.
-/

namespace Audience

/-- The kind of a campaign. -/
inductive CampaignKind where
  | fidelity
  | reminder
  | other (name : String)
  | unspecified
deriving DecidableEq, Repr

namespace CampaignKind

/-- The name of loyalty campaigns. -/
def fidelityName : String := "Fidelizacion"

/-- The name of reminder campaigns. -/
def reminderName : String := "Recordatorio"

/-- The kind that a name stands for; the empty name leaves it open. -/
def ofName (name : String) : CampaignKind :=
  if name = "" then unspecified
  else if name = fidelityName then fidelity
  else if name = reminderName then reminder
  else other name

/-- The kind that a name stands for, when there is one. -/
def ofName? : Option String → CampaignKind
  | none => unspecified
  | some name => ofName name

/-- The name of the kind. -/
def name : CampaignKind → String
  | fidelity => fidelityName
  | reminder => reminderName
  | other name => name
  | unspecified => ""

theorem name_ofName (s : String) : (ofName s).name = s := by
  unfold ofName
  split
  · next h => exact h.symm
  · split
    · next h => exact h.symm
    · split
      · next h => exact h.symm
      · rfl

end CampaignKind

/-- How a campaign sends. -/
inductive SendMode where
  | m0
  | m1
deriving DecidableEq, Repr

/-- The text that names no send mode, in lower case and without outer blanks. -/
structure SendMode.Unknown where
  text : String
deriving DecidableEq, Repr

namespace SendMode

/-- The mode of a campaign that does not choose one. -/
def standard : SendMode := m1

instance : Inhabited SendMode := ⟨standard⟩

/-- The name of the mode, which also ends the names of its tables. -/
def name : SendMode → String
  | m0 => "m0"
  | m1 => "m1"

/-- The message for an unknown mode. -/
def Unknown.message (e : Unknown) : String := s!"unknown send mode '{e.text}', expected M0 or M1"

/-- The mode that a text names. -/
def read (s : String) : Except Unknown SendMode :=
  let text := String.ofList ((Text.trimChars s.toList).map Char.toLower)
  if text = m0.name then .ok m0
  else if text = m1.name then .ok m1
  else .error ⟨text⟩

end SendMode

end Audience
