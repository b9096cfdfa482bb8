import Mathlib.Data.List.DropRight

/-!
Texts in UTF-8 with zeros behind them.

Only the character zero is encoded with a zero at its end. So the zeros behind the encoding of a
text can be taken off, and what is left encodes the text without the zero characters at its end.
-/

namespace Vero.Lib.PaddedText

/-- The bytes of a text in UTF-8. -/
def encode (s : String) : List UInt8 := s.toUTF8.toList

/-- The text that some bytes encode. -/
def decode? (bytes : List UInt8) : Option String := String.fromUTF8? bytes.toByteArray

lemma toList_loop (bytes : ByteArray) (i : ℕ) (r : List UInt8) :
    ByteArray.toList.loop bytes i r = r.reverse ++ bytes.data.toList.drop i := by
  fun_induction ByteArray.toList.loop bytes i r with
  | case1 i r hlt ih =>
    have hlen : i < bytes.data.toList.length := by simpa using hlt
    rw [ih, List.drop_eq_getElem_cons hlen, List.reverse_cons, List.append_assoc]
    simp [ByteArray.get!, hlt]
  | case2 i r hlt =>
    have hlen : bytes.data.toList.length ≤ i := by simpa using hlt
    rw [List.drop_eq_nil_of_le hlen, List.append_nil]

lemma toList_eq (bytes : ByteArray) : bytes.toList = bytes.data.toList := by
  unfold ByteArray.toList
  rw [toList_loop]
  rfl

lemma encode_eq (s : String) : encode s = s.toList.flatMap String.utf8EncodeChar := by
  unfold encode
  rw [toList_eq, String.toUTF8_eq_toByteArray, ← String.utf8Encode_toList]
  unfold List.utf8Encode
  rw [List.toList_data_toByteArray]

lemma encode_ofList (l : List Char) :
    encode (.ofList l) = l.flatMap String.utf8EncodeChar := by
  rw [encode_eq, String.toList_ofList]

/-- **Decoding undoes encoding.** -/
lemma decode?_encode (s : String) : decode? (encode s) = some s := by
  have hbytes : (encode s).toByteArray = s.toByteArray := by
    refine ByteArray.ext (Array.toList_inj.mp ?_)
    rw [List.toList_data_toByteArray, encode, toList_eq, String.toUTF8_eq_toByteArray]
  unfold decode? String.fromUTF8?
  rw [hbytes, dif_pos s.isValidUTF8]
  rfl

/-! ### Zeros at the end -/

lemma encodeChar_zero : String.utf8EncodeChar '\x00' = [0] := rfl

lemma ofNat_ne_zero {n : ℕ} (h : n % 256 ≠ 0) : UInt8.ofNat n ≠ 0 := by
  intro hzero
  have htoNat := congrArg UInt8.toNat hzero
  rw [UInt8.toNat_ofNat'] at htoNat
  exact h htoNat

/-- The bytes of any other character end in a byte that is not zero. -/
lemma encodeChar_eq_concat {c : Char} (hc : c ≠ '\x00') :
    ∃ bytes byte, String.utf8EncodeChar c = bytes ++ [byte] ∧ byte ≠ 0 := by
  fun_cases String.utf8EncodeChar with
  | case1 v hle =>
    refine ⟨[], _, rfl, ofNat_ne_zero ?_⟩
    have hne : v ≠ 0 := fun hzero => hc (Char.toNat_inj.mp hzero)
    omega
  | case2 v _ hle =>
    exact ⟨[_], _, rfl, ofNat_ne_zero (by omega)⟩
  | case3 v _ _ hle =>
    exact ⟨[_, _], _, rfl, ofNat_ne_zero (by omega)⟩
  | case4 v _ _ _ =>
    exact ⟨[_, _, _], _, rfl, ofNat_ne_zero (by omega)⟩

lemma rdropWhile_append_zeros (bytes : List UInt8) (k : ℕ) :
    (bytes ++ List.replicate k 0).rdropWhile (· = 0) = bytes.rdropWhile (· = 0) := by
  induction k with
  | zero => rw [List.replicate_zero, List.append_nil]
  | succ k ih =>
    rw [List.replicate_succ', ← List.append_assoc, List.rdropWhile_concat_pos _ _ _ (by simp), ih]

/-- Taking the zeros off an encoded text takes the zero characters off the text. -/
lemma rdropWhile_encode (l : List Char) :
    (encode (.ofList l)).rdropWhile (· = 0) =
      encode (.ofList (l.rdropWhile (· = '\x00'))) := by
  induction l using List.reverseRecOn with
  | nil => rw [encode_ofList, List.rdropWhile_nil, encode_ofList]; rfl
  | append_singleton l c ih =>
    rw [encode_ofList, List.flatMap_append, ← encode_ofList, List.flatMap_singleton]
    by_cases hc : c = '\x00'
    · subst hc
      rw [encodeChar_zero, List.rdropWhile_concat_pos _ _ _ (by simp), ih,
        List.rdropWhile_concat_pos _ _ _ (by simp)]
    · obtain ⟨bytes, byte, hbytes, hbyte⟩ := encodeChar_eq_concat hc
      rw [List.rdropWhile_concat_neg _ _ _ (by simpa using hc), encode_ofList (l ++ [c]),
        List.flatMap_append, ← encode_ofList, List.flatMap_singleton, hbytes, ← List.append_assoc,
        List.rdropWhile_concat_neg _ _ _ (by simpa using hbyte)]

/-- What is left of a text without its zero characters at the end, which are put back as bytes. -/
lemma encode_rdropWhile_append (l : List Char) :
    ∃ k, encode (.ofList l) =
      encode (.ofList (l.rdropWhile (· = '\x00'))) ++ List.replicate k 0 := by
  induction l using List.reverseRecOn with
  | nil => exact ⟨0, by rw [List.rdropWhile_nil, List.replicate_zero, List.append_nil]⟩
  | append_singleton l c ih =>
    by_cases hc : c = '\x00'
    · subst hc
      obtain ⟨k, hk⟩ := ih
      refine ⟨k + 1, ?_⟩
      rw [encode_ofList, List.flatMap_append, ← encode_ofList, List.flatMap_singleton,
        encodeChar_zero, List.rdropWhile_concat_pos _ _ _ (by simp), hk, List.append_assoc,
        ← List.replicate_succ']
    · refine ⟨0, ?_⟩
      rw [List.rdropWhile_concat_neg _ _ _ (by simpa using hc), List.replicate_zero,
        List.append_nil]

end Vero.Lib.PaddedText
