/-!
Tables of the warehouse by project, dataset and name. Identifiers cannot be bound as parameters, so a
reference is checked before its text goes into a statement: a valid one consists of ASCII letters, digits and
underscores, in a project also hyphens, and no part starts with a digit or hyphen.
-/

namespace Audience

/-- A table by its full name. -/
structure TableRef where
  project : String
  dataset : String
  table : String
deriving DecidableEq, Repr

namespace TableRef

/-- `project.dataset.table`. -/
def qualified (t : TableRef) : String := t.project ++ "." ++ t.dataset ++ "." ++ t.table

/-- A character that an identifier may start with. -/
def startsIdentifier (c : Char) : Bool := c.isAlpha || c == '_'

/-- A character inside an identifier. -/
def inIdentifier (c : Char) : Bool := c.isAlphanum || c == '_'

/-- A character inside the identifier of a project. -/
def inProject (c : Char) : Bool := inIdentifier c || c == '-'

/-- The text starts as an identifier and goes on with admitted characters. -/
def isIdentifier (admitted : Char → Bool) (s : String) : Bool :=
  match s.toList with
  | [] => false
  | c :: cs => startsIdentifier c && cs.all admitted

/-- The parts with the characters that each admits, in the order in which they are checked. -/
def parts (t : TableRef) : List ((Char → Bool) × String) :=
  [(inProject, t.project), (inIdentifier, t.dataset), (inIdentifier, t.table)]

/-- The first part that is no identifier. -/
def firstInvalid? (t : TableRef) : Option String :=
  (t.parts.find? fun p => !isIdentifier p.1 p.2).map (·.2)

/-- Every part is an identifier. -/
def Valid (t : TableRef) : Prop := t.firstInvalid? = none

instance (t : TableRef) : Decidable t.Valid := inferInstanceAs (Decidable (_ = _))

theorem valid_iff (t : TableRef) :
    t.Valid ↔ isIdentifier inProject t.project = true ∧ isIdentifier inIdentifier t.dataset = true ∧
      isIdentifier inIdentifier t.table = true := by
  simp [Valid, firstInvalid?, parts]

theorem Valid.table {t : TableRef} (h : t.Valid) : isIdentifier inIdentifier t.table = true :=
  ((valid_iff t).mp h).2.2

end TableRef

end Audience
