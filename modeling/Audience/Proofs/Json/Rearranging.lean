import Audience.Proofs.Json.Writing

/-!
Values that differ in the order of members. An object that has its members in another order denotes the same value, as
long as members with one name keep their order among themselves, and so does every value that such an object stands in
(`Rearranged.normal_eq`).
-/

namespace Audience

namespace NameMap

variable {α : Type}

/-- What a list gives a name depends on the entries with that name alone. -/
theorem lookup_reverse_eq (entries : List (String × α)) (name : String) :
    entries.reverse.lookup name = ((entries.filter fun e => e.1 == name).getLast?).map Prod.snd := by
  rw [← List.head?_reverse, ← List.filter_reverse]
  induction entries.reverse with
  | nil => rfl
  | cons e rest ih =>
    rw [List.lookup_cons, List.filter_cons]
    by_cases hname : e.1 = name
    · simp [hname]
    · simp [hname, beq_false_of_ne (Ne.symm hname), ih]

theorem ofList_congr {entries others : List (String × α)}
    (h : ∀ name, (entries.filter fun e => e.1 == name) = others.filter fun e => e.1 == name) :
    ofList entries = ofList others := by
  refine ext_get? fun name => ?_
  rw [get?_ofList, get?_ofList, lookup_reverse_eq, lookup_reverse_eq, h name]

end NameMap

namespace Json

variable {members others : List (String × Json)} {j k : Json}

theorem sortMembers_eq_entries (members : List (String × Json)) :
    sortMembers members = (NameMap.ofList members).entries := by
  have hfold : ∀ m : NameMap Json, members.foldl (fun sorted e => NameMap.insertEntry e.1 e.2 sorted) m.entries =
      (members.foldl (fun m e => m.insert e.1 e.2) m).entries := by
    induction members with
    | nil => exact fun _ => rfl
    | cons e rest ih => exact fun m => ih (m.insert e.1 e.2)
  exact hfold .empty

theorem normalMembers_eq_map (members : List (String × Json)) :
    normalMembers members = members.map fun m => (m.1, m.2.normal) := by
  induction members with
  | nil => rfl
  | cons m members ih => rw [normalMembers, ih, List.map_cons]

/-- The second value is the first one with the members of objects in another order, at any depth. -/
inductive Rearranged : Json → Json → Prop where
  | refl (j : Json) : Rearranged j j
  | trans {j k l : Json} (h : Rearranged j k) (h' : Rearranged k l) : Rearranged j l
  /-- Members with one name do not change places, since the last of them counts. -/
  | members {members others : List (String × Json)}
      (h : ∀ name, (members.filter fun m => m.1 == name) = others.filter fun m => m.1 == name) :
      Rearranged (.obj members) (.obj others)
  | item (before after : List Json) {j k : Json} (h : Rearranged j k) :
      Rearranged (.arr (before ++ j :: after)) (.arr (before ++ k :: after))
  | member (before after : List (String × Json)) (name : String) {j k : Json} (h : Rearranged j k) :
      Rearranged (.obj (before ++ (name, j) :: after)) (.obj (before ++ (name, k) :: after))

namespace Rearranged

/-- Where no name is repeated, the members may stand in any order. -/
theorem of_perm (hnames : (members.map Prod.fst).Nodup) (h : members.Perm others) :
    Rearranged (.obj members) (.obj others) := by
  have hnames' : (others.map Prod.fst).Nodup := (h.map Prod.fst).nodup_iff.mp hnames
  refine .members fun name => (h.filter _).eq_of_pairwise ?_ ((List.pairwise_map.mp hnames).filter _)
    ((List.pairwise_map.mp hnames').filter _)
  -- No two members have the name, so their order decides nothing.
  intro m n hm hn hne _
  exact absurd ((beq_iff_eq.mp (List.mem_filter.mp hm).2).trans (beq_iff_eq.mp (List.mem_filter.mp hn).2).symm) hne

/-- Values that differ in the order of members denote the same. -/
theorem normal_eq (h : Rearranged j k) : j.normal = k.normal := by
  induction h with
  | refl => rfl
  | trans _ _ ih ih' => exact ih.trans ih'
  | members h =>
    rw [normal, normal, sortMembers_eq_entries, sortMembers_eq_entries, normalMembers_eq_map, normalMembers_eq_map]
    refine congrArg (fun m : NameMap Json => Json.obj m.entries) (NameMap.ofList_congr fun name => ?_)
    rw [List.filter_map, List.filter_map]
    exact congrArg _ (h name)
  | item before after _ ih => simp only [normal, normalItems_eq_map, List.map_append, List.map_cons, ih]
  | member before after name _ ih => simp only [normal, normalMembers_eq_map, List.map_append, List.map_cons, ih]

end Rearranged

end Json

end Audience
