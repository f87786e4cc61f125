import Audience.Proofs.Json.Rearranging

/-!
What a text shows under the names of members. Names lead to a value inside a value, and they lead to the same one in the
normal form (`at?_normal`), whatever order the members were given in. A text shows one number at most in a place
(`Shows.unique`).
-/

namespace Audience

namespace NameMap

variable {α : Type}

/-- Each name stands once, so it does not matter from which end it is looked up. -/
theorem lookup_reverse_entries (m : NameMap α) (name : String) : m.entries.reverse.lookup name = m.get? name := by
  ext value
  have hone : ∀ v w, (name, v) ∈ m.entries → (name, w) ∈ m.entries → v = w := fun v w hv hw =>
    Option.some.inj ((get?_of_mem hv).symm.trans (get?_of_mem hw))
  rw [← get?_ofList, get?_ofList_eq_some_iff hone]
  exact ⟨get?_of_mem, mem_of_get?⟩

end NameMap

namespace Json

variable {j k : Json} {names : List String} {text : String} {m n : Nat}

/-- The value that the names of members lead to. -/
def at? (j : Json) : List String → Option Json
  | [] => some j
  | name :: names => (j.field? name).bind fun member => member.at? names

theorem field?_normal (j : Json) (name : String) : j.normal.field? name = (j.field? name).map normal := by
  cases j with
  | obj members =>
    have hlast : ((members.map fun m => (m.1, m.2.normal)).filter fun m => m.1 == name).getLast? =
        ((members.filter fun m => m.1 == name).getLast?).map fun m => (m.1, m.2.normal) := by
      rw [List.filter_map, List.getLast?_map]
      rfl
    rw [normal, field?, field?, sortMembers_eq_entries, NameMap.lookup_reverse_entries, NameMap.get?_ofList,
      normalMembers_eq_map, NameMap.lookup_reverse_eq, NameMap.lookup_reverse_eq, hlast, Option.map_map, Option.map_map]
    rfl
  | _ => rfl

theorem at?_normal (j : Json) (names : List String) : j.normal.at? names = (j.at? names).map normal := by
  induction names generalizing j with
  | nil => rfl
  | cons name names ih =>
    rw [at?, at?, field?_normal]
    cases j.field? name with
    | none => rfl
    | some member => exact ih member

/-- The text is that of a JSON value with this number in the place that the names lead to. -/
def Shows (text : String) (names : List String) (n : Nat) : Prop :=
  ∃ (j : Json) (k : Integer), text = String.ofList j.written ∧ j.at? names = some (.int k) ∧ k.val = n

theorem Shows.unique (h : Shows text names m) (h' : Shows text names n) : m = n := by
  obtain ⟨j, k, rfl, hplace, hval⟩ := h
  obtain ⟨j', k', htext, hplace', hval'⟩ := h'
  obtain rfl := written_injective (String.ofList_injective htext)
  rw [hplace] at hplace'
  cases hplace'
  omega

theorem shows_text {k : Integer} (h : j.at? names = some (.int k)) (hval : k.val = n) : Shows j.text names n :=
  ⟨j.normal, k, rfl, by rw [at?_normal, h]; rfl, hval⟩

end Json

end Audience
