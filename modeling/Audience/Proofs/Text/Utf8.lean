import Audience.Text.Utf8

/-!
Texts and their bytes. The bytes of a character are read as that character and nothing else
(`utf8From_utf8EncodeChar`), so the bytes of a text are read as the text, by the strict reader and by the lenient one.
-/

namespace Audience.Text

variable {b c : Char} {cs : List Char} {low high bits n : Nat} {byte : UInt8} {rest : List UInt8}

/-! ### Bytes of a text -/

theorem toList_loop (bytes : ByteArray) (i : Nat) (taken : List UInt8) :
    ByteArray.toList.loop bytes i taken = taken.reverse ++ bytes.data.toList.drop i := by
  fun_induction ByteArray.toList.loop bytes i taken with
  | case1 i taken hlt ih =>
    have hlt' : i < bytes.data.toList.length := hlt
    have hget : bytes.get! i = bytes.data.toList[i] := getElem!_pos bytes.data i hlt
    rw [ih, List.drop_eq_getElem_cons hlt', hget, List.reverse_cons, List.append_assoc]
    rfl
  | case2 i taken hle =>
    have hle' : bytes.data.toList.length ≤ i := Nat.le_of_not_lt hle
    rw [List.drop_eq_nil_of_le hle', List.append_nil]

theorem utf8Bytes_ofList (cs : List Char) : utf8Bytes (String.ofList cs) = cs.flatMap String.utf8EncodeChar := by
  rw [utf8Bytes, String.toUTF8_eq_toByteArray, String.toByteArray_ofList, ByteArray.toList, toList_loop]
  simp [List.utf8Encode]

theorem utf8EncodeChar_of_ascii (h : c.toNat < 0x80) : String.utf8EncodeChar c = [UInt8.ofNat c.toNat] :=
  if_pos (Nat.le_of_lt_succ h)

/-! ### Steps of the reader -/

theorem ofByte?_two {b : Nat} (hlow : 0xC2 ≤ b) (hhigh : b < 0xE0) :
    Utf8Lead.ofByte? b = some ⟨b - 0xC0, 1, 0x80, 0xBF⟩ := by
  rw [Utf8Lead.ofByte?, if_neg (by omega), if_neg (by omega), if_pos hhigh]

theorem ofByte?_three {b : Nat} (hlow : 0xE0 ≤ b) (hhigh : b < 0xF0) :
    Utf8Lead.ofByte? b =
      some ⟨b - 0xE0, 2, if b = 0xE0 then 0xA0 else 0x80, if b = 0xED then 0x9F else 0xBF⟩ := by
  rw [Utf8Lead.ofByte?, if_neg (by omega), if_neg (by omega), if_neg (by omega)]
  split
  · next hb => subst hb; rfl
  · split
    · next hb => subst hb; rfl
    · rfl

theorem ofByte?_four {b : Nat} (hlow : 0xF0 ≤ b) (hhigh : b ≤ 0xF4) :
    Utf8Lead.ofByte? b =
      some ⟨b - 0xF0, 3, if b = 0xF0 then 0x90 else 0x80, if b = 0xF4 then 0x8F else 0xBF⟩ := by
  rw [Utf8Lead.ofByte?, if_neg (by omega), if_neg (by omega), if_neg (by omega), if_neg (by omega), if_neg (by omega),
    if_neg (by omega)]
  split
  · next hb => subst hb; rfl
  · next hne =>
    by_cases hlt : b < 0xF4
    · rw [if_pos hlt, if_neg (by omega)]
    · obtain rfl : b = 0xF4 := by omega
      rfl

theorem utf8From_single (h : byte.toNat < 0x80) :
    utf8From .between (byte :: rest) = some (Char.ofNat byte.toNat) :: utf8From .between rest := by
  rw [utf8From, Utf8Lead.ofByte?, if_pos h]

theorem utf8From_lead (h : Utf8Lead.ofByte? byte.toNat = some ⟨bits, n + 1, low, high⟩) :
    utf8From .between (byte :: rest) = utf8From (.inside bits n low high) rest := by
  rw [utf8From, h]

theorem utf8From_last (hlow : low ≤ byte.toNat) (hhigh : byte.toNat ≤ high) :
    utf8From (.inside bits 0 low high) (byte :: rest) =
      some (Char.ofNat (bits * 64 + byte.toNat % 64)) :: utf8From .between rest := by
  rw [utf8From, if_pos ⟨hlow, hhigh⟩]

theorem utf8From_more (hlow : low ≤ byte.toNat) (hhigh : byte.toNat ≤ high) :
    utf8From (.inside bits (n + 1) low high) (byte :: rest) =
      utf8From (.inside (bits * 64 + byte.toNat % 64) n 0x80 0xBF) rest := by
  rw [utf8From, if_pos ⟨hlow, hhigh⟩]

/-! ### Characters -/

theorem utf8From_utf8EncodeChar (c : Char) (rest : List UInt8) :
    utf8From .between (String.utf8EncodeChar c ++ rest) = some c :: utf8From .between rest := by
  have hvalid : c.toNat < 0xD800 ∨ 0xDFFF < c.toNat ∧ c.toNat < 0x110000 := c.valid
  have hbyte : ∀ {k}, k < 256 → (UInt8.ofNat k).toNat = k := UInt8.toNat_ofNat_of_lt'
  have hchar : ∀ {k}, k = c.toNat → some (Char.ofNat k) = some c := fun h => h ▸ congrArg some c.ofNat_toNat
  have hval : c.val.toNat = c.toNat := rfl
  simp only [String.utf8EncodeChar, hval]
  generalize c.toNat = v at *
  -- One case for each length. That the value needs so many bytes and is no surrogate keeps the second byte within the
  -- bounds that the first one sets.
  split
  · next hone =>
    have hlead : (UInt8.ofNat v).toNat = v := hbyte (by omega)
    rw [List.singleton_append, utf8From_single (by omega), hlead, hchar rfl]
  · split
    · next htwo =>
      have hlead : (UInt8.ofNat (v / 64 % 32 + 192)).toNat = v / 64 + 192 := by rw [hbyte (by omega)]; omega
      have hlast : (UInt8.ofNat (v % 64 + 128)).toNat = v % 64 + 128 := hbyte (by omega)
      rw [List.cons_append, List.singleton_append, utf8From_lead (ofByte?_two (by omega) (by omega)),
        utf8From_last (by omega) (by omega), hlead, hlast, hchar (by omega)]
    · split
      · next htwo hthree =>
        have hlead : (UInt8.ofNat (v / 4096 % 16 + 224)).toNat = v / 4096 + 224 := by rw [hbyte (by omega)]; omega
        have hnext : (UInt8.ofNat (v / 64 % 64 + 128)).toNat = v / 64 % 64 + 128 := hbyte (by omega)
        have hlast : (UInt8.ofNat (v % 64 + 128)).toNat = v % 64 + 128 := hbyte (by omega)
        rw [List.cons_append, List.cons_append, List.singleton_append,
          utf8From_lead (ofByte?_three (by omega) (by omega)), utf8From_more (by split <;> omega) (by split <;> omega),
          utf8From_last (by omega) (by omega), hlead, hnext, hlast, hchar (by omega)]
      · next htwo hthree =>
        have hlead : (UInt8.ofNat (v / 262144 % 8 + 240)).toNat = v / 262144 + 240 := by rw [hbyte (by omega)]; omega
        have hnext : (UInt8.ofNat (v / 4096 % 64 + 128)).toNat = v / 4096 % 64 + 128 := hbyte (by omega)
        have hthird : (UInt8.ofNat (v / 64 % 64 + 128)).toNat = v / 64 % 64 + 128 := hbyte (by omega)
        have hlast : (UInt8.ofNat (v % 64 + 128)).toNat = v % 64 + 128 := hbyte (by omega)
        rw [List.cons_append, List.cons_append, List.cons_append, List.singleton_append,
          utf8From_lead (ofByte?_four (by omega) (by omega)), utf8From_more (by split <;> omega) (by split <;> omega),
          utf8From_more (by omega) (by omega), utf8From_last (by omega) (by omega), hlead, hnext, hthird, hlast,
          hchar (by omega)]

theorem utf8From_chars (cs : List Char) :
    utf8From .between (cs.flatMap String.utf8EncodeChar) = cs.map some := by
  induction cs with
  | nil => rfl
  | cons c cs ih => rw [List.flatMap_cons, utf8From_utf8EncodeChar, ih, List.map_cons]

/-! ### Texts -/

theorem ofUtf8?_chars (cs : List Char) : ofUtf8? (cs.flatMap String.utf8EncodeChar) = some (String.ofList cs) := by
  rw [ofUtf8?, utf8From_chars, List.mapM_map]
  show (cs.mapM fun c => (pure c : Option Char)).map String.ofList = some (String.ofList cs)
  rw [List.mapM_pure, List.map_id']
  rfl

theorem ofUtf8Lenient_chars (cs : List Char) : ofUtf8Lenient (cs.flatMap String.utf8EncodeChar) = String.ofList cs := by
  rw [ofUtf8Lenient, utf8From_chars, List.map_map]
  exact congrArg String.ofList cs.map_id

end Audience.Text
