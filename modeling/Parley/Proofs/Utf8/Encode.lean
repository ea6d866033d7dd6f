import Parley.Proofs.Utf8.Spelling

/-!
# Parley.Proofs.Utf8.Encode

Texts and strings as the bytes of their characters.

* `length_encode`: a text has as many bytes as its `size` says.
* `newline_not_mem_encode`: the byte of a line feed is in a text only where a line feed is.
* `toList_toUTF8`: the bytes of a string are those of its characters.
-/

namespace Parley
namespace Utf8

/-! ## Texts as bytes -/

@[simp] theorem encode_nil : encode [] = [] := rfl

@[simp] theorem encode_cons (c : Char) (cs : List Char) :
    encode (c :: cs) = encodeChar c ++ encode cs := rfl

@[simp] theorem encode_append (cs ds : List Char) : encode (cs ++ ds) = encode cs ++ encode ds :=
  List.flatMap_append

theorem foldl_utf8Size (n : Nat) (cs : List Char) :
    cs.foldl (fun n c => n + c.utf8Size) n = n + size cs := by
  induction cs generalizing n with
  | nil => rfl
  | cons c cs ih => rw [size, List.foldl_cons, List.foldl_cons, ih, ih, Nat.zero_add, Nat.add_assoc]

@[simp] theorem size_nil : size [] = 0 := rfl

@[simp] theorem size_cons (c : Char) (cs : List Char) :
    size (c :: cs) = c.utf8Size + size cs := by
  rw [size, List.foldl_cons, foldl_utf8Size, Nat.zero_add]

@[simp] theorem size_append (cs ds : List Char) : size (cs ++ ds) = size cs + size ds := by
  rw [size, List.foldl_append, foldl_utf8Size]
  rfl

@[simp] theorem length_encode (cs : List Char) : (encode cs).length = size cs := by
  induction cs with
  | nil => rfl
  | cons c cs ih =>
    rw [encode_cons, List.length_append, ih, size_cons, encodeChar, String.length_utf8EncodeChar]

theorem newline_not_mem_encode {cs : List Char} (h : '\n' ∉ cs) : 10 ∉ encode cs := by
  intro hmem
  obtain ⟨c, hc, hbyte⟩ := List.mem_flatMap.1 hmem
  have hten : '\n'.toNat = c.toNat := toNat_eq_of_mem_encodeChar hbyte (by decide)
  exact h (Char.toNat_inj.1 hten ▸ hc)

/-! ## Strings as bytes -/

theorem toList_loop_eq (bytes : ByteArray) (i : Nat) (acc : List UInt8) :
    ByteArray.toList.loop bytes i acc = acc.reverse ++ bytes.data.toList.drop i := by
  induction h : bytes.size - i generalizing i acc with
  | zero =>
    have hle : bytes.data.toList.length ≤ i := by
      rw [Array.length_toList]; exact Nat.le_of_sub_eq_zero h
    rw [ByteArray.toList.loop, if_neg (by omega), List.drop_eq_nil_of_le hle, List.append_nil]
  | succ n ih =>
    have hlt : i < bytes.data.toList.length := by
      rw [Array.length_toList]; exact Nat.lt_of_sub_eq_succ h
    have hget : bytes.get! i = bytes.data.toList[i] := getElem!_pos bytes.data i hlt
    rw [ByteArray.toList.loop, if_pos (Nat.lt_of_sub_eq_succ h), ih _ _ (by omega),
      List.drop_eq_getElem_cons hlt, hget, List.reverse_cons, List.append_assoc]
    rfl

theorem toList_data_toByteArray (s : String) : s.toByteArray.data.toList = encode s.toList := by
  rw [← String.utf8Encode_toList, List.utf8Encode, List.toList_data_toByteArray]
  rfl

theorem toList_toUTF8 (s : String) : s.toUTF8.toList = encode s.toList := by
  rw [String.toUTF8_eq_toByteArray, ByteArray.toList, toList_loop_eq, toList_data_toByteArray]
  rfl

theorem utf8ByteSize_eq_size (s : String) : s.utf8ByteSize = size s.toList := by
  rw [← length_encode, ← toList_data_toByteArray, Array.length_toList]
  rfl

end Utf8
end Parley
