import Mathlib.Tactic.SplitIfs
import AutoReply.Text.Encoding

/-!
The bytes of a text are decoded to its characters.
-/

namespace AutoReply.Text

theorem decodeFirst?_eq {first bits : Nat} {others : List Nat} {character : Char}
    (lead : leadByte? first = some (others.length, bits))
    (continued : ∀ byte ∈ others, 0x80 ≤ byte ∧ byte < 0xC0)
    (value : others.foldl (fun value byte => value * 64 + (byte - 0x80)) bits = character.toNat)
    (width : character.utf8Size = others.length + 1) (rest : List Nat) :
    decodeFirst? (first :: (others ++ rest)) = some (character, others.length) := by
  have inRange : others.all (fun byte => 0x80 ≤ byte && byte < 0xC0) = true := by
    simpa using continued
  have valid : character.toNat.isValidChar := character.valid
  unfold decodeFirst?
  simp only [lead, List.take_left, value, inRange, valid, Char.ofNat_toNat, width]
  simp

theorem leadByte?_one {byte : Nat} (small : byte < 0x80) : leadByte? byte = some (0, byte) := by
  simp [leadByte?, small]

theorem leadByte?_two {bits : Nat} (large : 2 ≤ bits) (small : bits < 0x20) :
    leadByte? (bits + 0xC0) = some (1, bits) := by
  unfold leadByte?
  rw [if_neg (by omega), if_pos (by omega), Nat.add_sub_cancel]

theorem leadByte?_three {bits : Nat} (small : bits < 0x10) :
    leadByte? (bits + 0xE0) = some (2, bits) := by
  unfold leadByte?
  rw [if_neg (by omega), if_neg (by omega), if_pos (by omega), Nat.add_sub_cancel]

theorem leadByte?_four {bits : Nat} (small : bits < 5) :
    leadByte? (bits + 0xF0) = some (3, bits) := by
  unfold leadByte?
  rw [if_neg (by omega), if_neg (by omega), if_neg (by omega), if_pos (by omega),
    Nat.add_sub_cancel]

theorem toNat_ofNat {byte : Nat} (small : byte < 256) : (UInt8.ofNat byte).toNat = byte := by
  rw [UInt8.toNat_ofNat', Nat.mod_eq_of_lt small]

theorem decodeFirst?_utf8EncodeChar (character : Char) (rest : List Nat) :
    decodeFirst? ((String.utf8EncodeChar character).map UInt8.toNat ++ rest) =
      some (character, (String.utf8EncodeChar character).length - 1) := by
  have bound : character.toNat < 0x110000 := by
    rcases character.valid with low | high
    · exact Nat.lt_trans low (by decide)
    · exact high.2
  have width := (String.length_utf8EncodeChar character).symm
  unfold String.utf8EncodeChar at width ⊢
  dsimp only at width ⊢
  generalize numbered : character.val.toNat = number at width ⊢
  replace numbered : character.toNat = number := numbered
  rw [numbered] at bound
  -- one case for each count of bytes
  split_ifs at width ⊢ with one two three
  · rw [List.map_cons, toNat_ofNat (by omega)]
    have lead := leadByte?_one (show number < 0x80 by omega)
    exact decodeFirst?_eq lead (List.forall_mem_nil _) numbered.symm width rest
  · rw [List.map_cons, List.map_cons, toNat_ofNat (by omega), toNat_ofNat (by omega)]
    have lead := leadByte?_two (show 2 ≤ number / 64 % 32 by omega) (Nat.mod_lt _ (by decide))
    refine decodeFirst?_eq lead ?_ ?_ width rest
    · simp
      omega
    · simp
      omega
  · rw [List.map_cons, List.map_cons, List.map_cons, toNat_ofNat (by omega),
      toNat_ofNat (by omega), toNat_ofNat (by omega)]
    have lead := leadByte?_three (Nat.mod_lt (number / 4096) (show 0 < 16 by decide))
    refine decodeFirst?_eq lead ?_ ?_ width rest
    · simp
      omega
    · simp
      omega
  · rw [List.map_cons, List.map_cons, List.map_cons, List.map_cons, toNat_ofNat (by omega),
      toNat_ofNat (by omega), toNat_ofNat (by omega), toNat_ofNat (by omega)]
    have lead := leadByte?_four (show number / 262144 % 8 < 5 by omega)
    refine decodeFirst?_eq lead ?_ ?_ width rest
    · simp
      omega
    · simp
      omega

theorem decodeAfter_length (skipped rest : List Nat) :
    decodeAfter skipped.length (skipped ++ rest) = decodeAfter 0 rest := by
  induction skipped with
  | nil => rfl
  | cons byte skipped ih => exact ih

theorem decodeAfter_utf8EncodeChar (character : Char) (rest : List Nat) :
    decodeAfter 0 ((String.utf8EncodeChar character).map UInt8.toNat ++ rest) =
      some character :: decodeAfter 0 rest := by
  have first := decodeFirst?_utf8EncodeChar character rest
  cases encoded : String.utf8EncodeChar character with
  | nil => exact absurd encoded String.utf8EncodeChar_ne_nil
  | cons byte others =>
      have behind := decodeAfter_length (others.map UInt8.toNat) rest
      rw [encoded] at first
      simp only [List.map_cons, List.cons_append, List.length_cons, Nat.add_sub_cancel] at first ⊢
      rw [List.length_map] at behind
      rw [decodeAfter]
      simp only [first, behind]

theorem decode_flatMap (text : List Char) :
    decode (text.flatMap String.utf8EncodeChar) = text.map some := by
  unfold decode
  induction text with
  | nil => rfl
  | cons character text ih =>
      rw [List.flatMap_cons, List.map_append, decodeAfter_utf8EncodeChar, ih, List.map_cons]

theorem toList_loop (bytes : ByteArray) (index : Nat) (taken : List UInt8) :
    ByteArray.toList.loop bytes index taken =
      taken.reverse ++ bytes.data.toList.drop index := by
  fun_induction ByteArray.toList.loop bytes index taken with
  | case1 index taken more ih =>
      have inside : index < bytes.data.toList.length := by simpa using more
      rw [ih, List.drop_eq_getElem_cons inside]
      simp [ByteArray.get!, more]
  | case2 index taken ended =>
      rw [List.drop_eq_nil_of_le (by simpa using Nat.le_of_not_lt ended), List.append_nil]

theorem toList_toUTF8 (text : String) :
    text.toUTF8.toList = text.toList.flatMap String.utf8EncodeChar := by
  rw [ByteArray.toList, toList_loop, List.reverse_nil, List.nil_append, List.drop_zero,
    String.toUTF8_eq_toByteArray, ← String.utf8Encode_toList, List.utf8Encode,
    List.toList_data_toByteArray]

/-- Every text is read back from its bytes. -/
theorem decode_toUTF8 (text : String) : decode text.toUTF8.toList = symbols text := by
  rw [toList_toUTF8, decode_flatMap, symbols]

end AutoReply.Text
