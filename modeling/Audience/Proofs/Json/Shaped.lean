import Audience.Json.Record
import Mathlib.Data.List.Basic

/-!
Texts read in a shape. `Json.within` is what a shape reads of a value: all but the members that it passes over. A text that
can be read whole is read in every shape, and gives just that (`Json.parseAs?_of_parse?`); a shape never makes a text
unreadable. A reader whose parts are those of the shape does not see what is left out (`Json.part_within`).
-/

namespace Audience.Json

variable {fuel depth place : Nat} {shape : Shape} {cs rest acc s : List Char} {j : Json} {name : String}

/-! ### Passing over what can be read -/

theorem pastString?_of_stringRest (h : stringRest acc cs = some (s, rest)) : pastString? cs = some rest := by
  fun_induction stringRest acc cs <;> simp_all [pastString?]

theorem pastScalar?_of_scalar? (h : scalar? cs = some (j, rest)) : pastScalar? cs = some rest := by
  unfold scalar? at h
  split at h
  · cases h; rfl
  · cases h; rfl
  · cases h; rfl
  · obtain ⟨⟨s, after⟩, hs, heq⟩ := Option.map_eq_some_iff.mp h
    cases heq
    exact pastString?_of_stringRest hs
  · next hnull htrue hfalse hstring =>
    split at h
    · next n after hn =>
      obtain ⟨_, -, heq⟩ := Option.map_eq_some_iff.mp h
      cases heq
      unfold pastScalar?
      split
      · exact absurd rfl (hnull _)
      · exact absurd rfl (htrue _)
      · exact absurd rfl (hfalse _)
      · exact absurd rfl (hstring _)
      · rw [hn]
        rfl
    · cases h

theorem pastName?_of_name? (h : name? cs = some (name, rest)) : pastName? cs = some rest := by
  unfold name? at h
  unfold pastName?
  split at h
  · obtain ⟨⟨s, behind⟩, hs, h⟩ := Option.bind_eq_some_iff.mp h
    obtain ⟨after, hcolon, heq⟩ := Option.bind_eq_some_iff.mp h
    cases heq
    exact Option.bind_eq_some_iff.mpr ⟨behind, pastString?_of_stringRest hs, hcolon⟩
  · cases h

/-- With this fuel, what is read can be passed over, and the same follows it. -/
structure Passes (fuel : Nat) : Prop where
  value : ∀ {depth cs j rest}, value? fuel depth .whole cs = some (j, rest) → pastValue? fuel cs = some rest
  items : ∀ {depth place acc cs j rest},
    items? fuel depth .whole place acc cs = some (j, rest) → pastItems? fuel cs = some rest
  members : ∀ {depth acc cs j rest},
    members? fuel depth .whole acc cs = some (j, rest) → pastMembers? fuel cs = some rest

namespace Passes

theorem value_succ (ih : Passes fuel) (h : value? (fuel + 1) depth .whole cs = some (j, rest)) :
    pastValue? (fuel + 1) cs = some rest := by
  rw [value?] at h
  rw [pastValue?]
  split at h
  · cases depth with
    | zero => cases h
    | succ depth =>
      simp only at h
      split at h
      · cases h
        rfl
      · exact ih.items h
  · cases depth with
    | zero => cases h
    | succ depth =>
      simp only at h
      split at h
      · cases h
        rfl
      · exact ih.members h
  · exact pastScalar?_of_scalar? h

theorem items_succ {items : List Json} (ih : Passes fuel)
    (h : items? (fuel + 1) depth .whole place items cs = some (j, rest)) : pastItems? (fuel + 1) cs = some rest := by
  rw [items?] at h
  rw [pastItems?]
  split at h
  · cases h
  · next j' behind hvalue =>
    rw [ih.value hvalue]
    simp only
    split at h
    · exact ih.items h
    · cases h
      rfl
    · cases h

theorem members_succ {members : List (String × Json)} (ih : Passes fuel)
    (h : members? (fuel + 1) depth .whole members cs = some (j, rest)) : pastMembers? (fuel + 1) cs = some rest := by
  rw [members?] at h
  rw [pastMembers?]
  split at h
  · cases h
  · next name behind hname =>
    simp only [Shape.member?] at h
    split at h
    · cases h
    · next members' after hvalue =>
      obtain ⟨⟨j', after'⟩, hread, heq⟩ := Option.map_eq_some_iff.mp hvalue
      cases heq
      rw [pastName?_of_name? hname, Option.bind_some, ih.value hread]
      simp only at h ⊢
      split at h
      · exact ih.members h
      · cases h
        rfl
      · cases h

end Passes

-- By induction on the fuel, as the readers recurse; a reader and the one that passes over what it reads cut alike.
theorem passes (fuel : Nat) : Passes fuel := by
  induction fuel with
  | zero => refine ⟨fun h => ?_, fun h => ?_, fun h => ?_⟩ <;> simp [value?, items?, members?] at h
  | succ fuel ih => exact ⟨ih.value_succ, ih.items_succ, ih.members_succ⟩

/-! ### What a shape reads -/

mutual

/-- What a shape reads of a value. -/
def within : Json → Shape → Json
  | .arr items, shape => .arr (itemsWithin items shape 0)
  | .obj members, shape => .obj (membersWithin members shape)
  | j, _ => j

/-- `within` on the items of an array, the first of which is at a place. -/
def itemsWithin : List Json → Shape → Nat → List Json
  | [], _, _ => []
  | j :: rest, shape, place => j.within (shape.item place) :: itemsWithin rest shape (place + 1)

/-- `within` on the members of an object. -/
def membersWithin : List (String × Json) → Shape → List (String × Json)
  | [], _ => []
  | (name, j) :: rest, shape =>
    match shape.member? name with
    | some shape' => (name, j.within shape') :: membersWithin rest shape
    | none => membersWithin rest shape

end

theorem membersWithin_eq_filterMap (members : List (String × Json)) (shape : Shape) :
    membersWithin members shape =
      members.filterMap fun m => (shape.member? m.1).map fun shape => (m.1, m.2.within shape) := by
  induction members with
  | nil => rfl
  | cons m members ih =>
    rw [membersWithin, ih, List.filterMap_cons]
    cases shape.member? m.1 <;> rfl

theorem membersWithin_cons (m : String × Json) (more : List (String × Json)) (shape : Shape) :
    membersWithin (m :: more) shape = membersWithin [m] shape ++ membersWithin more shape := by
  simp only [membersWithin_eq_filterMap, ← List.filterMap_append, List.singleton_append]

theorem within_of_ofInt? {n : Int} (h : ofInt? n = some j) : j.within shape = j := by
  unfold ofInt? at h
  split at h
  · cases h
    rfl
  · cases h

theorem within_of_scalar? (h : scalar? cs = some (j, rest)) : j.within shape = j := by
  unfold scalar? at h
  split at h
  · cases h; rfl
  · cases h; rfl
  · cases h; rfl
  · obtain ⟨⟨s, after⟩, -, heq⟩ := Option.map_eq_some_iff.mp h
    cases heq
    rfl
  · split at h
    · next n after hn =>
      obtain ⟨j', hj, heq⟩ := Option.map_eq_some_iff.mp h
      cases heq
      unfold Numeral.toJson? at hj
      rcases Option.or_eq_some_iff.mp hj with hint | ⟨-, hfloat⟩
      · split_ifs at hint <;> exact within_of_ofInt? hint
      · obtain ⟨x, -, rfl⟩ := Option.map_eq_some_iff.mp hfloat
        rfl
    · cases h

/-- With this fuel, what is read whole is read in every shape, and gives what the shape reads of it. Items and members
go on from others, whatever these are. -/
structure Reads (fuel : Nat) : Prop where
  value : ∀ {depth cs j rest} (shape : Shape), value? fuel depth .whole cs = some (j, rest) →
    value? fuel depth shape cs = some (j.within shape, rest)
  items : ∀ {depth place acc cs j rest} (shape : Shape) (before : List Json),
    items? fuel depth .whole place acc cs = some (j, rest) →
    ∃ more, j = .arr (acc.reverse ++ more) ∧
      items? fuel depth shape place before cs = some (.arr (before.reverse ++ itemsWithin more shape place), rest)
  members : ∀ {depth acc cs j rest} (shape : Shape) (before : List (String × Json)),
    members? fuel depth .whole acc cs = some (j, rest) →
    ∃ more, j = .obj (acc.reverse ++ more) ∧
      members? fuel depth shape before cs = some (.obj (before.reverse ++ membersWithin more shape), rest)

namespace Reads

theorem value_succ (ih : Reads fuel) (shape : Shape) (h : value? (fuel + 1) depth .whole cs = some (j, rest)) :
    value? (fuel + 1) depth shape cs = some (j.within shape, rest) := by
  rw [value?] at h ⊢
  split at h
  · cases depth with
    | zero => cases h
    | succ depth =>
      simp only at h ⊢
      split at h
      · cases h
        rfl
      · obtain ⟨more, rfl, hshape⟩ := ih.items shape [] h
        exact hshape
  · cases depth with
    | zero => cases h
    | succ depth =>
      simp only at h ⊢
      split at h
      · cases h
        rfl
      · obtain ⟨more, rfl, hshape⟩ := ih.members shape [] h
        exact hshape
  · rw [within_of_scalar? h]
    exact h

theorem items_succ {items : List Json} (ih : Reads fuel) (shape : Shape) (before : List Json)
    (h : items? (fuel + 1) depth .whole place items cs = some (j, rest)) :
    ∃ more, j = .arr (items.reverse ++ more) ∧ items? (fuel + 1) depth shape place before cs =
      some (.arr (before.reverse ++ itemsWithin more shape place), rest) := by
  rw [items?] at h ⊢
  split at h
  · cases h
  · next j' behind hvalue =>
    rw [ih.value (shape.item place) hvalue]
    simp only
    split at h
    · obtain ⟨more, rfl, hshape⟩ := ih.items shape (j'.within (shape.item place) :: before) h
      refine ⟨j' :: more, by simp, ?_⟩
      rw [hshape]
      simp [itemsWithin]
    · cases h
      exact ⟨[j'], by simp, by simp [itemsWithin]⟩
    · cases h

/-- A member that can be read whole is put behind those before it, or it is passed over; the object goes on behind it. -/
theorem members?_cons {behind after : List Char} (ih : Reads fuel) (shape : Shape) (before : List (String × Json))
    (hname : name? cs = some (name, behind)) (hvalue : value? fuel depth .whole behind = some (j, after)) :
    ∃ kept, kept.reverse = before.reverse ++ membersWithin [(name, j)] shape ∧
      (∀ rest, skipSpace after = ',' :: rest →
        members? (fuel + 1) depth shape before cs = members? fuel depth shape kept rest) ∧
      ∀ rest, skipSpace after = '}' :: rest →
        members? (fuel + 1) depth shape before cs = some (.obj kept.reverse, rest) := by
  cases hmember : shape.member? name with
  | none =>
    have hpast := (passes fuel).value hvalue
    exact ⟨before, by simp [membersWithin, hmember], fun rest hcomma => by simp [members?, hname, hmember, hpast, hcomma],
      fun rest hbrace => by simp [members?, hname, hmember, hpast, hbrace]⟩
  | some part =>
    have hread := ih.value part hvalue
    exact ⟨(name, j.within part) :: before, by simp [membersWithin, hmember],
      fun rest hcomma => by simp [members?, hname, hmember, hread, hcomma],
      fun rest hbrace => by simp [members?, hname, hmember, hread, hbrace]⟩

theorem members_succ {members : List (String × Json)} (ih : Reads fuel) (shape : Shape) (before : List (String × Json))
    (h : members? (fuel + 1) depth .whole members cs = some (j, rest)) :
    ∃ more, j = .obj (members.reverse ++ more) ∧ members? (fuel + 1) depth shape before cs =
      some (.obj (before.reverse ++ membersWithin more shape), rest) := by
  rw [members?] at h
  split at h
  · cases h
  · next name behind hname =>
    simp only [Shape.member?] at h
    split at h
    · cases h
    · next members' after hvalue =>
      obtain ⟨⟨j', after'⟩, hread, heq⟩ := Option.map_eq_some_iff.mp hvalue
      cases heq
      obtain ⟨kept, hkept, hcomma, hbrace⟩ := ih.members?_cons shape before hname hread
      simp only at h
      split at h
      · next behind' hbehind =>
        obtain ⟨more, rfl, hshape⟩ := ih.members shape kept h
        refine ⟨(name, j') :: more, by simp, ?_⟩
        rw [hcomma _ hbehind, hshape, hkept, List.append_assoc, ← membersWithin_cons]
      · next hbehind =>
        cases h
        exact ⟨[(name, j')], by simp, by rw [hbrace _ hbehind, hkept]⟩
      · cases h

end Reads

-- By induction on the fuel, as for what is passed over.
theorem reads (fuel : Nat) : Reads fuel := by
  induction fuel with
  | zero => refine ⟨fun _ h => ?_, fun _ _ h => ?_, fun _ _ h => ?_⟩ <;> simp [value?, items?, members?] at h
  | succ fuel ih => exact ⟨ih.value_succ, ih.items_succ, ih.members_succ⟩

theorem readFirst?_within {text : String} (shape : Shape) (h : readFirst? .whole text = some (j, rest)) :
    readFirst? shape text = some (j.within shape, rest) :=
  (reads _).value shape h

/-- A text that can be read whole is read in every shape, as what the shape reads of its value. -/
theorem parseAs?_of_parse? {text : String} (shape : Shape) (h : parse? text = some j) :
    parseAs? shape text = some (j.within shape) := by
  unfold parse? parseAs? at h
  unfold parseAs?
  split at h
  · next j' rest hread =>
    rw [readFirst?_within shape hread]
    split at h
    · next hrest =>
      obtain rfl := Option.some.inj h
      exact if_pos hrest
    · cases h
  · cases h

/-! ### Parts of records -/

theorem itemsWithin_list (items : List Json) (shape : Shape) (place : Nat) :
    itemsWithin items (.list shape) place = items.map (·.within shape) := by
  induction items generalizing place with
  | nil => rfl
  | cons j items ih => rw [itemsWithin, ih, List.map_cons, Shape.item]

theorem getElem?_itemsWithin (items : List Json) (shape : Shape) (start place : Nat) :
    (itemsWithin items shape start)[place]? = (items[place]?).map (·.within (shape.item (start + place))) := by
  induction items generalizing start place with
  | nil => rfl
  | cons j items ih =>
    cases place with
    | zero => rfl
    | succ place =>
      rw [itemsWithin, List.getElem?_cons_succ, ih, List.getElem?_cons_succ, Nat.succ_add_eq_add_succ]

theorem length_itemsWithin (items : List Json) (shape : Shape) (place : Nat) :
    (itemsWithin items shape place).length = items.length := by
  induction items generalizing place with
  | nil => rfl
  | cons j items ih => rw [itemsWithin, List.length_cons, ih, List.length_cons]

@[simp]
theorem within_whole (j : Json) : j.within .whole = j := by
  induction j using Json.induction with
  | arr items ih =>
    rw [within]
    congr 1
    refine List.ext_getElem? fun i => ?_
    rw [getElem?_itemsWithin, Shape.item]
    cases hi : items[i]? with
    | none => rfl
    | some j => rw [Option.map_some, ih j (List.mem_of_getElem? hi)]
  | obj members ih =>
    rw [within, membersWithin_eq_filterMap]
    congr 1
    refine (List.filterMap_congr fun m hm => ?_).trans List.filterMap_some
    exact congrArg (fun j => some (m.1, j)) (ih m hm)
  | _ => rfl

@[simp]
theorem isRecord_within (j : Json) (shape : Shape) (count : Nat) : (j.within shape).isRecord count = j.isRecord count := by
  cases j with
  | arr items => rw [within, isRecord, isRecord, length_itemsWithin]
  | _ => rfl

namespace Part

/-- The part with its value changed. -/
def map (f : Json → Json) : Part → Part
  | present j => present (f j)
  | p => p

theorem map_within_whole (p : Part) : p.map (·.within .whole) = p := by
  cases p with
  | present j => exact congrArg present (within_whole j)
  | _ => rfl

section
variable {α : Type} {read : Json → Option α} {shape : Shape} (h : ∀ j, read (j.within shape) = read j) (p : Part)
include h

theorem withDefault?_within (default : α) :
    (p.map (·.within shape)).withDefault? default read = p.withDefault? default read := by
  cases p with
  | present j => exact h j
  | _ => rfl

theorem optional?_within : (p.map (·.within shape)).optional? read = p.optional? read := by
  cases p with
  | present j => cases j <;> first | rfl | exact congrArg (Option.map some) (h _)
  | _ => rfl

end

end Part

theorem filter_membersWithin {name : String} {shape part : Shape} (hname : shape.member? name = some part)
    (members : List (String × Json)) :
    (membersWithin members shape).filter (fun m => m.1 == name) =
      (members.filter fun m => m.1 == name).map fun m => (m.1, m.2.within part) := by
  induction members with
  | nil => rfl
  | cons m members ih =>
    obtain ⟨other, j⟩ := m
    rw [membersWithin]
    by_cases hother : other = name
    · subst hother
      simp [hname, ih]
    · cases shape.member? other <;> simp [hother, ih]

/-- The part of a record with a shape is the part of the whole in the shape for that part. -/
theorem part_within {parts : List (String × Shape)} {place : Nat} {name : String} {shape : Shape}
    (hplace : parts[place]? = some (name, shape)) (hname : parts.lookup name = some shape) (j : Json) :
    (j.within (.record parts)).part place name = (j.part place name).map (·.within shape) := by
  cases j with
  | arr items =>
    have hitem : (Shape.record parts).item (0 + place) = shape := by rw [Nat.zero_add, Shape.item, hplace]; rfl
    rw [within, part, part, getElem?_itemsWithin, hitem]
    cases items[place]? <;> rfl
  | obj members =>
    have hmember : (Shape.record parts).member? name = some shape := hname
    rw [within, part, part, filter_membersWithin hmember]
    generalize members.filter (fun m => m.1 == name) = found
    rcases found with _ | ⟨m, _ | ⟨m', more⟩⟩ <;> rfl
  | _ => rfl

theorem part_within_whole {parts : List (String × Shape)} {place : Nat} {name : String}
    (hplace : parts[place]? = some (name, .whole)) (hname : parts.lookup name = some .whole) (j : Json) :
    (j.within (.record parts)).part place name = j.part place name :=
  (part_within hplace hname j).trans (Part.map_within_whole _)

theorem list?_within {α : Type} {read : Json → Option α} {shape : Shape} (h : ∀ j, read (j.within shape) = read j)
    (j : Json) : list? read (j.within (.list shape)) = list? read j := by
  cases j with
  | arr items =>
    rw [within, list?, list?, itemsWithin_list, List.mapM_map]
    exact congrArg (items.mapM ·) (funext h)
  | _ => rfl

end Audience.Json
