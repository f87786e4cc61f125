import Audience.Proofs.Http.Query
import Mathlib.Data.List.TakeWhile

/-!
The target that an address asks for. It falls into its path and its query again, and the last pairs in the query are those
that were added to the address, whatever the address and the pairs are (`pairs_suffix_of_target?`). From the path is read
what the address names behind its origin, as long as each name can be one part of a path (`parts_suffix_of_target?`).
-/

namespace Audience.Http.Url

variable {d : Char} {cs query part path rest : List Char} {parts taken : List (List Char)} {address target : String}
  {pairs : List (String × String)}

/-! ### Paths -/

theorem mem_escaped {reserved : List Char} (h : d ∈ escaped reserved cs) :
    d ∈ cs ∧ d ∉ reserved ∨ d = '%' ∨ isFormChar d = true := by
  obtain ⟨c, hc, hd⟩ := List.mem_flatMap.mp h
  split at hd
  · exact .inr (mem_percentChar hd)
  · next hplain =>
    obtain rfl := List.mem_singleton.mp hd
    exact .inl ⟨hc, fun hmem => hplain (.inr (.inr hmem))⟩

/-- A part of a path is put behind those taken so far, or takes the last of them away; at the end something is left. -/
theorem resolved_cons (taken : List (List Char)) (source : List Char) (rest : List (List Char)) :
    ∃ next, resolved taken (source :: rest) = resolved next rest ∧ (rest = [] → next ≠ []) ∧
      ∀ part ∈ next, part ∈ taken ∨ part = [] ∨ part = escaped pathReserved source := by
  have hopen : ∀ {kept : List (List Char)}, (∀ part ∈ kept, part ∈ taken) →
      ∀ part ∈ (if rest = [] then [[]] else []) ++ kept,
        part ∈ taken ∨ part = [] ∨ part = escaped pathReserved source := by
    intro kept hkept part hpart
    rcases List.mem_append.mp hpart with hempty | hpart
    · split at hempty
      · exact .inr (.inl (List.mem_singleton.mp hempty))
      · cases hempty
    · exact .inl (hkept part hpart)
  rw [resolved]
  by_cases hparent : isParent source
  · rw [if_pos hparent]
    exact ⟨_, rfl, fun hrest => by simp [hrest], hopen fun part => List.mem_of_mem_tail⟩
  · rw [if_neg hparent]
    by_cases hself : isSelf source
    · rw [if_pos hself]
      exact ⟨_, rfl, fun hrest => by simp [hrest], hopen fun part => id⟩
    · rw [if_neg hself]
      refine ⟨_, rfl, fun _ => List.cons_ne_nil _ _, fun part hpart => ?_⟩
      rcases List.mem_cons.mp hpart with hsource | htaken
      · exact .inr (.inr hsource)
      · exact .inl htaken

theorem mem_resolved (h : part ∈ resolved taken parts) :
    part ∈ taken ∨ part = [] ∨ ∃ source, part = escaped pathReserved source := by
  induction parts generalizing taken with
  | nil => exact .inl (List.mem_reverse.mp h)
  | cons source rest ih =>
    obtain ⟨next, hnext, -, hparts⟩ := resolved_cons taken source rest
    rw [hnext] at h
    rcases ih h with hmem | hother
    · exact (hparts part hmem).imp id fun hother => hother.imp id fun heq => ⟨source, heq⟩
    · exact .inr hother

theorem resolved_ne_nil (h : parts ≠ [] ∨ taken ≠ []) : resolved taken parts ≠ [] := by
  induction parts generalizing taken with
  | nil => simpa [resolved] using h
  | cons source rest ih =>
    obtain ⟨next, hnext, hleft, -⟩ := resolved_cons taken source rest
    rw [hnext]
    exact ih ((em (rest = [])).symm.imp id hleft)

theorem mem_pathText (h : d ∈ pathText path) : d = '/' ∨ d ∉ pathReserved ∨ d = '%' ∨ isFormChar d = true := by
  obtain ⟨part, hpart, hd⟩ := List.mem_flatMap.mp h
  rcases List.mem_cons.mp hd with rfl | hd
  · exact .inl rfl
  · rcases mem_resolved hpart with hnone | rfl | ⟨source, rfl⟩
    · cases hnone
    · cases hd
    · exact .inr ((mem_escaped hd).imp And.right id)

theorem exists_pathText (path : List Char) : ∃ more, pathText path = '/' :: more := by
  have hne : resolved [] ((path.drop 1).splitOnP isSlash) ≠ [] := resolved_ne_nil (.inl (List.splitOnP_ne_nil _ _))
  obtain ⟨part, rest, hparts⟩ := List.exists_cons_of_ne_nil hne
  exact ⟨part ++ rest.flatMap fun part => '/' :: part, by rw [pathText, hparts]; rfl⟩

theorem not_mem_pathText (hreserved : d ∈ pathReserved) (h : Unwritten d) (hslash : d ≠ '/') : d ∉ pathText path := by
  intro hd
  rcases mem_pathText hd with heq | hnot | heq | hform
  · exact hslash heq
  · exact hnot hreserved
  · exact h.2.1 heq
  · rw [h.2.2] at hform
    cases hform

/-! ### Targets -/

/-- The path and the query of a target that was put together of them. -/
theorem targetParts_append (path query : List Char) (h : '#' ∉ query) :
    targetParts (String.ofList (pathText path ++ '?' :: query)) =
      (String.ofList (pathText path), String.ofList query) := by
  have hhash : ∀ d ∈ pathText path ++ '?' :: query, decide (d ≠ '#') = true := by
    intro d hd
    refine decide_eq_true fun heq => ?_
    subst heq
    rcases List.mem_append.mp hd with hpath | hquery
    · exact not_mem_pathText (by decide) (by decide) (by decide) hpath
    · rcases List.mem_cons.mp hquery with heq | hquery
      · cases heq
      · exact h hquery
  have hcut : Text.splitOnce ['?'] (pathText path ++ '?' :: query) = some (pathText path, query) :=
    Text.splitOnce_singleton_eq_some_iff.mpr ⟨rfl, not_mem_pathText (by decide) (by decide) (by decide)⟩
  obtain ⟨more, hslash⟩ := exists_pathText path
  have horigin : withoutOrigin (pathText path ++ '?' :: query) = pathText path ++ '?' :: query := by
    rw [hslash, List.cons_append, withoutOrigin]
  have hwhole : (pathText path ++ '?' :: query).takeWhile (fun d => decide (d ≠ '#')) = pathText path ++ '?' :: query :=
    List.takeWhile_eq_self_iff.mpr hhash
  rw [targetParts, String.toList_ofList, hwhole, horigin, hcut]

/-- The query of a target that an address has, with pairs behind it. -/
theorem queryPart_eq (query : Option (List Char)) (hpairs : pairs ≠ []) :
    queryPart query pairs = '?' :: extended (escaped queryReserved (query.getD [])) pairs := by
  cases query with
  | none => exact if_neg hpairs
  | some query => rfl

theorem not_mem_extended (h : Unwritten d) (hquery : d ∉ query) (hequals : d ≠ '=') (hampersand : d ≠ '&') :
    d ∉ extended query pairs := by
  unfold extended
  split
  · exact not_mem_formQuery h hequals hampersand
  · split
    · exact hquery
    · intro hd
      rcases List.mem_append.mp hd with hd | hd
      · exact hquery hd
      · rcases List.mem_cons.mp hd with heq | hd
        · exact hampersand heq
        · exact not_mem_formQuery h hequals hampersand hd

theorem targetParts_queryPart (path : List Char) (query : Option (List Char)) (hpairs : pairs ≠ []) :
    targetParts (String.ofList (pathText path ++ queryPart query pairs)) =
      (String.ofList (pathText path), String.ofList (extended (escaped queryReserved (query.getD [])) pairs)) := by
  rw [queryPart_eq query hpairs]
  refine targetParts_append path _ (not_mem_extended (by decide) (fun hd => ?_) (by decide) (by decide))
  rcases mem_escaped hd with ⟨-, hnot⟩ | heq | hform
  · exact hnot (by decide)
  · cases heq
  · cases hform

theorem exists_of_target? (h : target? address pairs = some target) :
    ∃ path query, target = String.ofList (pathText path ++ queryPart query pairs) := by
  obtain ⟨rest, -, hrest⟩ := Option.bind_eq_some_iff.mp h
  obtain rfl := Option.some.inj hrest
  split
  · next path query _ => exact ⟨path, some query, rfl⟩
  · exact ⟨_, none, rfl⟩

/-- The pairs that are added to an address are the last ones in the query of its target. -/
theorem pairs_suffix_of_target? (h : target? address pairs = some target) (hpairs : pairs ≠ []) :
    pairs <:+ queryPairs (targetParts target).2 := by
  obtain ⟨path, query, rfl⟩ := exists_of_target? h
  rw [targetParts_queryPart path query hpairs, queryPairs_extended]
  exact List.suffix_append _ _

/-! ### Parts of an address -/

/-- A text that can be one part of a path: no character of it ends the part, starts an escape or is left out, and it is
no step to another place. -/
structure PathPart (part : List Char) : Prop where
  chars : ∀ c ∈ part, c ∉ ['/', '\\', '?', '#', '%', '\t', '\n', '\r']
  notSelf : part ≠ ['.']
  notParent : part ≠ ['.', '.']

instance (part : List Char) : Decidable (PathPart part) :=
  decidable_of_iff
    (part.all (· ∉ ['/', '\\', '?', '#', '%', '\t', '\n', '\r']) = true ∧ part ≠ ['.'] ∧ part ≠ ['.', '.'])
    ⟨fun ⟨chars, notSelf, notParent⟩ => ⟨fun c hc => of_decide_eq_true (List.all_eq_true.mp chars c hc), notSelf, notParent⟩,
      fun h => ⟨List.all_eq_true.mpr fun c hc => decide_eq_true (h.chars c hc), h.notSelf, h.notParent⟩⟩

/-- Parts with a slash in front of each. -/
def slashed (parts : List (List Char)) : List Char := parts.flatMap fun part => '/' :: part

theorem eq_of_toLower_eq {c : Char} (hd : d.toNat < 65) (h : c.toLower = d) : c = d := by
  unfold Char.toLower at h
  split at h
  · next hupper =>
    have hlow : 65 ≤ c.val.toNat := UInt32.le_iff_toNat_le.mp hupper.1
    have hhigh : c.val.toNat ≤ 90 := UInt32.le_iff_toNat_le.mp hupper.2
    have hvalue : (c.val + 32).toNat = d.toNat := congrArg Char.toNat h
    have hshift : UInt32.toNat 32 = 32 := rfl
    rw [UInt32.toNat_add, hshift] at hvalue
    omega
  · exact h

theorem mem_of_mem_map_toLower (hd : d.toNat < 65) (h : d ∈ cs.map Char.toLower) : d ∈ cs := by
  obtain ⟨c, hc, heq⟩ := List.mem_map.mp h
  exact eq_of_toLower_eq hd heq ▸ hc

namespace PathPart

theorem not_mem_percent (h : PathPart part) : '%' ∉ part := fun hmem => h.chars '%' hmem (by decide)

theorem isSlash_eq_false (h : PathPart part) : ∀ c ∈ part, isSlash c = false := by
  intro c hc
  have hne := h.chars c hc
  simp only [List.mem_cons, not_or] at hne
  simp [isSlash, hne]

theorem isSelf_eq_false (h : PathPart part) : isSelf part = false := by
  refine decide_eq_false fun hmem => ?_
  simp only [List.mem_cons, List.not_mem_nil, or_false] at hmem
  rcases hmem with hdot | hescape
  · have hdot : part.map Char.toLower = ['.'] := hdot
    obtain ⟨c, rfl, hc⟩ := List.map_eq_singleton_iff.mp hdot
    exact h.notSelf (by rw [eq_of_toLower_eq (by decide) hc])
  · exact h.not_mem_percent (mem_of_mem_map_toLower (by decide) (by rw [hescape]; decide))

theorem isParent_eq_false (h : PathPart part) : isParent part = false := by
  have hescape : ∀ {lowered : List Char}, '%' ∈ lowered → part.map Char.toLower ≠ lowered := by
    rintro _ hmem rfl
    exact h.not_mem_percent (mem_of_mem_map_toLower (by decide) hmem)
  refine decide_eq_false fun hmem => ?_
  simp only [List.mem_cons, List.not_mem_nil, or_false] at hmem
  rcases hmem with hdots | hescaped | hescaped | hescaped
  · have hdots : part.map Char.toLower = ['.', '.'] := hdots
    obtain ⟨c, rest, rfl, hc, hrest⟩ := List.map_eq_cons_iff.mp hdots
    obtain ⟨d, rfl, hd⟩ := List.map_eq_singleton_iff.mp hrest
    exact h.notParent (by rw [eq_of_toLower_eq (by decide) hc, eq_of_toLower_eq (by decide) hd])
  · exact hescape (by decide) hescaped
  · exact hescape (by decide) hescaped
  · exact hescape (by decide) hescaped

end PathPart

theorem not_mem_escaped_slash (h : PathPart part) : '/' ∉ escaped pathReserved part := by
  intro hmem
  rcases mem_escaped hmem with ⟨hpart, -⟩ | heq | hform
  · exact h.chars '/' hpart (by decide)
  · cases heq
  · cases hform

theorem percentDecoded_escaped (h : '%' ∉ part) :
    percentDecoded ((escaped pathReserved part).flatMap String.utf8EncodeChar) = part.flatMap String.utf8EncodeChar := by
  induction part with
  | nil => rfl
  | cons c part ih =>
    obtain ⟨hc, hpart⟩ := List.ne_and_not_mem_of_not_mem_cons h
    rw [escaped, List.flatMap_cons, ← escaped, List.flatMap_append, List.flatMap_cons]
    split
    · rw [percentChar_eq, percentDecoded_percentBytes, ih hpart]
    · next hplain =>
      simp only [not_or, Nat.not_le] at hplain
      have hascii : c.toNat < 0x80 := Nat.lt_trans hplain.2.1 (by decide)
      have hbyte : UInt8.ofNat c.toNat ≠ 0x25 := by
        intro heq
        have hvalue : (UInt8.ofNat c.toNat).toNat = '%'.toNat := congrArg UInt8.toNat heq
        rw [UInt8.toNat_ofNat_of_lt' (Nat.lt_trans hascii (by decide))] at hvalue
        exact hc (Char.toNat_inj.mp hvalue).symm
      rw [List.flatMap_singleton, Text.utf8EncodeChar_of_ascii hascii, List.singleton_append, percentDecoded_cons hbyte,
        ih hpart]
      rfl

/-- A part of a path reads back as the text that it was. -/
theorem pathText?_escaped (h : '%' ∉ part) :
    pathText? (String.ofList (escaped pathReserved part)) = some (String.ofList part) := by
  rw [pathText?, Text.utf8Bytes_ofList, percentDecoded_escaped h, Text.ofUtf8?_chars]

theorem resolved_of_parts (h : ∀ part ∈ parts, PathPart part) :
    resolved taken parts = taken.reverse ++ parts.map (escaped pathReserved) := by
  induction parts generalizing taken with
  | nil => rw [resolved, List.map_nil, List.append_nil]
  | cons part rest ih =>
    obtain ⟨hpart, hrest⟩ := List.forall_mem_cons.mp h
    rw [resolved, hpart.isParent_eq_false, hpart.isSelf_eq_false, if_neg Bool.false_ne_true, if_neg Bool.false_ne_true,
      ih hrest, List.reverse_cons, List.append_assoc]
    rfl

theorem suffix_resolved (front : List (List Char)) (h : ∀ part ∈ parts, PathPart part) :
    parts.map (escaped pathReserved) <:+ resolved taken (front ++ parts) := by
  induction front generalizing taken with
  | nil =>
    rw [List.nil_append, resolved_of_parts h]
    exact List.suffix_append _ _
  | cons source front ih =>
    obtain ⟨next, hnext, -⟩ := resolved_cons taken source (front ++ parts)
    rw [List.cons_append, hnext]
    exact ih

/-- Parts that hold no slash are cut apart at the slashes in front of them. -/
theorem splitOnP_slashed {ends : Char → Bool} (hslash : ends '/' = true) (front : List Char)
    (h : ∀ part ∈ parts, ∀ c ∈ part, ends c = false) :
    (front ++ slashed parts).splitOnP ends = front.splitOnP ends ++ parts := by
  induction parts generalizing front with
  | nil => rw [slashed, List.flatMap_nil, List.append_nil, List.append_nil]
  | cons part rest ih =>
    obtain ⟨hpart, hrest⟩ := List.forall_mem_cons.mp h
    rw [slashed, List.flatMap_cons, ← slashed, List.cons_append, List.splitOnP_append_cons _ _ hslash, ih part hrest,
      List.splitOnP_eq_singleton hpart]
    rfl

theorem slashed_suffix_pathText (front : List Char) (h : ∀ part ∈ parts, PathPart part) :
    slashed (parts.map (escaped pathReserved)) <:+ pathText (front ++ slashed parts) := by
  have hends : ∀ part ∈ parts, ∀ c ∈ part, isSlash c = false := fun part hpart => (h part hpart).isSlash_eq_false
  have hparts : ∃ before, ((front ++ slashed parts).drop 1).splitOnP isSlash = before ++ parts := by
    cases front with
    | cons c front => exact ⟨_, splitOnP_slashed rfl front hends⟩
    | nil =>
      cases parts with
      | nil => exact ⟨_, (List.append_nil _).symm⟩
      | cons part rest =>
        obtain ⟨hpart, hrest⟩ := List.forall_mem_cons.mp hends
        refine ⟨[], (splitOnP_slashed rfl part hrest).trans ?_⟩
        rw [List.splitOnP_eq_singleton hpart]
        rfl
  obtain ⟨before, hbefore⟩ := hparts
  have hsuffix : parts.map (escaped pathReserved) <:+ resolved [] (before ++ parts) := suffix_resolved before h
  obtain ⟨more, hmore⟩ := hsuffix
  rw [pathText, hbefore, ← hmore, List.flatMap_append]
  exact List.suffix_append _ _

/-! ### Addresses -/

/-- An address that others go on from: a scheme and a host, and no query. -/
structure Base (base : String) : Prop where
  chars : ∀ c ∈ base.toList, c ∉ ['?', '#', '\t', '\n', '\r']
  start : ∀ c ∈ base.toList.head?, 0x20 < c.toNat
  origin : (afterOrigin? base.toList).isSome

instance (base : String) : Decidable (Base base) :=
  decidable_of_iff
    (base.toList.all (· ∉ ['?', '#', '\t', '\n', '\r']) = true ∧ base.toList.head?.all (0x20 < ·.toNat) = true ∧
      (afterOrigin? base.toList).isSome)
    ⟨fun ⟨chars, start, origin⟩ => ⟨fun c hc => of_decide_eq_true (List.all_eq_true.mp chars c hc),
        fun c hc => of_decide_eq_true ((Option.all_eq_true _ _).mp start c hc), origin⟩,
      fun h => ⟨List.all_eq_true.mpr fun c hc => decide_eq_true (h.chars c hc),
        (Option.all_eq_true _ _).mpr fun c hc => decide_eq_true (h.start c hc), h.origin⟩⟩

/-- Nothing is taken from an address without margin and line breaks. -/
theorem cleaned_eq_self (hfirst : ∀ c ∈ cs.head?, 0x20 < c.toNat) (hlast : ∀ c ∈ cs.getLast?, 0x20 < c.toNat)
    (hbreaks : ∀ c ∈ cs, c ∉ ['\t', '\n', '\r']) : cleaned cs = cs := by
  have hmargin : ∀ {ds : List Char}, (∀ c ∈ ds.head?, 0x20 < c.toNat) → ds.dropWhile isMargin = ds := by
    intro ds hds
    cases ds with
    | nil => rfl
    | cons c ds => exact List.dropWhile_cons_of_neg (by simpa [isMargin] using hds c rfl)
  rw [cleaned, hmargin hfirst, hmargin (List.head?_reverse ▸ hlast), List.reverse_reverse, List.filter_eq_self]
  exact fun c hc => decide_eq_true (hbreaks c hc)

theorem afterOrigin?_eq_some_iff :
    afterOrigin? cs = some rest ↔
      ∃ scheme behind, Text.splitOnce "://".toList cs = some (scheme, behind) ∧
        scheme.map Char.toLower ∈ ["http".toList, "https".toList] ∧
        behind.takeWhile (fun c => !endsOrigin c) ≠ [] ∧ rest = behind.dropWhile fun c => !endsOrigin c := by
  have hguard : ∀ {p : Prop} [Decidable p], (guard p : Option Unit) = some () ↔ p := by
    intro p _
    unfold guard
    split
    · next hp => exact ⟨fun _ => hp, fun _ => rfl⟩
    · next hp => exact ⟨nofun, fun h => absurd h hp⟩
  constructor
  · intro h
    obtain ⟨⟨scheme, behind⟩, hsplit, h⟩ := Option.bind_eq_some_iff.mp h
    obtain ⟨⟨⟩, hscheme, h⟩ := Option.bind_eq_some_iff.mp h
    obtain ⟨⟨⟩, hhost, h⟩ := Option.bind_eq_some_iff.mp h
    exact ⟨scheme, behind, hsplit, hguard.mp hscheme, hguard.mp hhost, (Option.some.inj h).symm⟩
  · rintro ⟨scheme, behind, hsplit, hscheme, hhost, rfl⟩
    exact Option.bind_eq_some_iff.mpr ⟨(scheme, behind), hsplit, Option.bind_eq_some_iff.mpr ⟨(), hguard.mpr hscheme,
      Option.bind_eq_some_iff.mpr ⟨(), hguard.mpr hhost, rfl⟩⟩⟩

theorem afterOrigin?_suffix (h : afterOrigin? cs = some rest) : rest <:+ cs := by
  obtain ⟨scheme, behind, hsplit, -, -, rfl⟩ := afterOrigin?_eq_some_iff.mp h
  rw [Text.append_of_splitOnce hsplit]
  exact (List.dropWhile_suffix _).trans (List.suffix_append _ _)

/-- What follows the origin of an address goes on behind it. -/
theorem afterOrigin?_append (h : afterOrigin? cs = some rest) {more : List Char}
    (hmore : more.dropWhile (fun c => !endsOrigin c) = more) : afterOrigin? (cs ++ more) = some (rest ++ more) := by
  obtain ⟨scheme, behind, hsplit, hscheme, hhost, rfl⟩ := afterOrigin?_eq_some_iff.mp h
  refine afterOrigin?_eq_some_iff.mpr ⟨scheme, behind ++ more, Text.splitOnce_extend hsplit more, hscheme, ?_, ?_⟩
  · cases behind with
    | nil => exact absurd rfl hhost
    | cons c behind =>
      have hc : (!endsOrigin c) = true := by
        by_contra hc
        exact hhost (List.takeWhile_cons_of_neg hc)
      rw [List.cons_append, List.takeWhile_cons_of_pos (p := fun c => !endsOrigin c) hc]
      exact List.cons_ne_nil _ _
  · rw [List.dropWhile_append]
    split
    · next hempty => rw [List.isEmpty_iff.mp hempty, hmore, List.nil_append]
    · rfl

theorem dropWhile_slashed (parts : List (List Char)) :
    (slashed parts).dropWhile (fun c => !endsOrigin c) = slashed parts := by
  cases parts <;> rfl

theorem slashed_append_singleton (parts : List (List Char)) (part : List Char) :
    slashed (parts ++ [part]) = slashed parts ++ '/' :: part := by
  rw [slashed, List.flatMap_append, List.flatMap_singleton, ← slashed]

/-- What a text of parts ends in is what the last of them ends in, or its slash. -/
theorem getLast?_slashed (parts : List (List Char)) (part : List Char) (front : List Char) :
    (front ++ slashed (parts ++ [part])).getLast? = some (part.getLast?.getD '/') := by
  rw [slashed_append_singleton, List.getLast?_append, List.getLast?_append, List.getLast?_cons]
  rfl

/-- The parts of a target's path, in clear. -/
def pathParts (target : String) : List (Option String) :=
  ((targetParts target).1.toList.splitOn '/').map fun part => pathText? (String.ofList part)

/-- Parts at the end of a path are read in clear from its target. -/
theorem parts_suffix_pathParts (front : List Char) (h : ∀ part ∈ parts, PathPart part) (query : Option (List Char))
    (hpairs : pairs ≠ []) :
    parts.map (fun part => some (String.ofList part)) <:+
      pathParts (String.ofList (pathText (front ++ slashed parts) ++ queryPart query pairs)) := by
  obtain ⟨before, hbefore⟩ := slashed_suffix_pathText front h
  have hends : ∀ part ∈ parts.map (escaped pathReserved), ∀ c ∈ part, (c == '/') = false := by
    refine List.forall_mem_map.mpr fun part hpart c hc => ?_
    exact beq_eq_false_iff_ne.mpr fun heq => not_mem_escaped_slash (h part hpart) (heq ▸ hc)
  have hread : (parts.map (escaped pathReserved)).map (fun part => pathText? (String.ofList part)) =
      parts.map fun part => some (String.ofList part) := by
    rw [List.map_map]
    exact List.map_congr_left fun part hpart => pathText?_escaped (h part hpart).not_mem_percent
  rw [pathParts, targetParts_queryPart _ query hpairs, String.toList_ofList, ← hbefore, List.splitOn,
    splitOnP_slashed rfl before hends, ← hread]
  exact ⟨_, List.map_append.symm⟩

/-- The target of an address that has only parts behind a base: nothing is trimmed from it or cut off it. -/
theorem target?_of_base {base : String} (pairs : List (String × String)) (hbase : Base base)
    (hparts : ∀ part ∈ parts, PathPart part) (hlast : ∀ c ∈ (base.toList ++ slashed parts).getLast?, 0x20 < c.toNat) :
    ∃ front, target? (base ++ String.ofList (slashed parts)) pairs =
      some (String.ofList (pathText (front ++ slashed parts) ++ queryPart none pairs)) := by
  obtain ⟨front, hfront⟩ := Option.isSome_iff_exists.mp hbase.origin
  have hplain : ∀ c ∈ slashed parts, c ∉ ['?', '#', '\t', '\n', '\r'] := by
    intro c hc
    obtain ⟨part, hpart, hc⟩ := List.mem_flatMap.mp hc
    rcases List.mem_cons.mp hc with rfl | hc
    · decide
    · have hnot := (hparts part hpart).chars c hc
      simp only [List.mem_cons, not_or] at hnot ⊢
      exact ⟨hnot.2.2.1, hnot.2.2.2.1, hnot.2.2.2.2.2⟩
  have hchars : ∀ c ∈ base.toList ++ slashed parts, c ∉ ['?', '#', '\t', '\n', '\r'] :=
    List.forall_mem_append.mpr ⟨hbase.chars, hplain⟩
  have hclean : cleaned (base.toList ++ slashed parts) = base.toList ++ slashed parts := by
    refine cleaned_eq_self (fun c hc => ?_) hlast fun c hc hmem =>
      hchars c hc (List.mem_append_right ['?', '#'] hmem)
    rw [List.head?_append_of_ne_nil _ (fun hnil => by rw [hnil] at hfront; cases hfront)] at hc
    exact hbase.start c hc
  have hafter := afterOrigin?_append hfront (dropWhile_slashed parts)
  have hbehind : ∀ c ∈ front ++ slashed parts, c ∉ ['?', '#', '\t', '\n', '\r'] := fun c hc =>
    hchars c ((afterOrigin?_suffix hafter).subset hc)
  have hwhole : (front ++ slashed parts).takeWhile (fun c => decide (c ≠ '#')) = front ++ slashed parts :=
    List.takeWhile_eq_self_iff.mpr fun c hc => decide_eq_true fun heq => hbehind c hc (by simp [heq])
  have hcut : Text.splitOnce ['?'] (front ++ slashed parts) = none := by
    rw [Option.eq_none_iff_forall_not_mem]
    rintro ⟨path, query⟩ hsplit
    exact hbehind '?' (by rw [Text.append_of_splitOnce hsplit]; simp) (by decide)
  refine ⟨front, ?_⟩
  rw [target?, String.toList_append, String.toList_ofList, hclean, hafter]
  simp only [Option.bind_eq_bind, Option.bind_some, hwhole, hcut]
  rfl

/-- Behind its origin an address has the parts that it ends in, and the path that it asks for ends in them. -/
theorem parts_suffix_of_target? {base last : String} {front : List String} (hbase : Base base)
    (hparts : ∀ part ∈ front ++ [last], PathPart part.toList) (hlast : ∀ c ∈ last.toList.getLast?, 0x20 < c.toNat)
    (h : target? (base ++ String.ofList (slashed ((front ++ [last]).map String.toList))) pairs = some target)
    (hpairs : pairs ≠ []) : (front ++ [last]).map some <:+ pathParts target := by
  have hlisted : ∀ part ∈ (front ++ [last]).map String.toList, PathPart part := List.forall_mem_map.mpr hparts
  have hend : ∀ c ∈ (base.toList ++ slashed ((front ++ [last]).map String.toList)).getLast?, 0x20 < c.toNat := by
    intro c hc
    rw [List.map_append, List.map_singleton, getLast?_slashed] at hc
    cases Option.some.inj hc
    cases hd : last.toList.getLast? with
    | none => decide
    | some d => exact hlast d hd
  obtain ⟨behind, htarget⟩ := target?_of_base pairs hbase hlisted hend
  obtain rfl := Option.some.inj (htarget.symm.trans h)
  have hsuffix := parts_suffix_pathParts behind hlisted none hpairs
  simpa only [List.map_map, Function.comp_def, String.ofList_toList] using hsuffix

example : Base "https://bigquery.googleapis.com/bigquery/v2" := by decide +kernel

end Audience.Http.Url
