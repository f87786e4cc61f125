import Audience.Data.NameMap
import Audience.Number.Binary64

/-!
JSON values. A number is an integer of 64 bits, signed or unsigned, or a finite binary64 number; the two are
never equal. An object holds its members as they were written. `Json.normal` is the value that they denote:
members in ascending order of their names, the last of two with one name, at every depth.
-/

namespace Audience

/-- An integer that 64 bits can hold, with or without a sign. -/
structure Json.Integer where
  val : Int
  in_range : -0x8000000000000000 ≤ val ∧ val < 0x10000000000000000
deriving DecidableEq

/-- A JSON value. -/
inductive Json where
  | null
  | bool (b : Bool)
  | int (n : Json.Integer)
  | float (x : Binary64)
  | str (s : String)
  | arr (items : List Json)
  | obj (members : List (String × Json))
deriving Inhabited

namespace Json

/-- Induction over values: what holds of an array or an object because it holds of all its parts. -/
@[elab_as_elim]
theorem induction {P : Json → Prop} (null : P .null) (bool : ∀ b, P (.bool b)) (int : ∀ n, P (.int n))
    (float : ∀ x, P (.float x)) (str : ∀ s, P (.str s)) (arr : ∀ items, (∀ j ∈ items, P j) → P (.arr items))
    (obj : ∀ members, (∀ m ∈ members, P m.2) → P (.obj members)) (j : Json) : P j :=
  @Json.rec P (fun items => ∀ j ∈ items, P j) (fun members => ∀ m ∈ members, P m.2) (fun m => P m.2)
    null bool int float str arr obj
    nofun (fun _ _ hj hrest => List.forall_mem_cons.mpr ⟨hj, hrest⟩)
    nofun (fun _ _ hm hrest => List.forall_mem_cons.mpr ⟨hm, hrest⟩)
    (fun _ _ hj => hj) j

/-- The integer as a JSON number, when 64 bits can hold it. -/
def ofInt? (n : Int) : Option Json :=
  if h : -0x8000000000000000 ≤ n ∧ n < 0x10000000000000000 then some (.int ⟨n, h⟩) else none

/-- A signed integer as a JSON number. -/
def ofInt64 (n : Int64) : Json :=
  .int ⟨n.toInt, by
    have := n.le_toInt
    have := n.toInt_lt
    omega⟩

/-- An integer without a sign as a JSON number. -/
def ofUInt64 (n : UInt64) : Json :=
  .int ⟨n.toNat, by
    have := n.toNat_lt
    omega⟩

/-- The members with one value to a name, in ascending order of the names. -/
def sortMembers (members : List (String × Json)) : List (String × Json) :=
  members.foldl (fun sorted m => NameMap.insertEntry m.1 m.2 sorted) []

mutual

/-- The value with every object in order and without repeated names. -/
def normal : Json → Json
  | .arr items => .arr (normalItems items)
  | .obj members => .obj (sortMembers (normalMembers members))
  | j => j

/-- `normal` on the items of an array. -/
def normalItems : List Json → List Json
  | [] => []
  | j :: rest => normal j :: normalItems rest

/-- `normal` on the values of an object's members. -/
def normalMembers : List (String × Json) → List (String × Json)
  | [] => []
  | (name, j) :: rest => (name, normal j) :: normalMembers rest

end

theorem normalItems_eq_map (items : List Json) : normalItems items = items.map normal := by
  induction items with
  | nil => rfl
  | cons j items ih => rw [normalItems, ih, List.map_cons]

/-- The value under a name; the last one when the name is repeated, and none when there is no object. -/
def field? (name : String) : Json → Option Json
  | .obj members => members.reverse.lookup name
  | _ => none

/-- The text of a JSON string. -/
def str? : Json → Option String
  | .str s => some s
  | _ => none

end Json

end Audience
