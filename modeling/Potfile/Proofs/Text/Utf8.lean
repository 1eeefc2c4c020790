import Potfile.Text.Utf8

/-! # Bytes that are text

* `decode_utf8EncodeChar_append`: the bytes of a character are read as that character, whatever
  follows them.
* `decodeLossy_toUTF8`: so nothing is lost when a text is written and read again.
-/

namespace Potfile.Text.Utf8

/-! ## Byte arrays -/

theorem toList_loop (bytes : ByteArray) (i : Nat) (front : List UInt8) :
    ByteArray.toList.loop bytes i front = front.reverse ++ bytes.data.toList.drop i := by
  rw [ByteArray.toList.loop]
  split
  · next inside =>
    have bound : i < bytes.data.toList.length := by simpa using inside
    have here : bytes.get! i = bytes.data.toList[i] := by
      simp only [ByteArray.get!, Array.getElem_toList]
      exact getElem!_pos bytes.data i inside
    rw [toList_loop, here, List.drop_eq_getElem_cons bound]
    simp
  · next outside =>
    have beyond : bytes.data.toList.length ≤ i := by simpa using outside
    rw [List.drop_eq_nil_of_le beyond, List.append_nil]
termination_by bytes.size - i

theorem toList_eq (bytes : ByteArray) : bytes.toList = bytes.data.toList := by
  rw [ByteArray.toList, toList_loop]
  simp

theorem toList_toUTF8 (text : String) :
    text.toUTF8.toList = text.toList.flatMap String.utf8EncodeChar := by
  have bytes : text.toUTF8 = text.toList.utf8Encode := by
    rw [String.toUTF8_eq_toByteArray, String.utf8Encode_toList]
  rw [toList_eq, bytes, List.utf8Encode, List.toList_data_toByteArray]

/-! ## Characters -/

theorem toNat_ofNat {n : Nat} (byte : n < 256) : (UInt8.ofNat n).toNat = n :=
  UInt8.toNat_ofNat_of_lt (by simpa using byte)

theorem lead_two {n : Nat} (low : 0xC2 ≤ n) (high : n < 0xE0) :
    lead (UInt8.ofNat n) = some ⟨n - 0xC0, 1, 0x80, 0xBF⟩ := by
  have byte : (UInt8.ofNat n).toNat = n := toNat_ofNat (by omega)
  simp only [lead, byte]
  rw [if_neg (by omega), if_pos high]

theorem lead_three {n : Nat} (low : 0xE0 ≤ n) (high : n < 0xF0) :
    lead (UInt8.ofNat n) = some ⟨n - 0xE0, 2, if n = 0xE0 then 0xA0 else 0x80,
      if n = 0xED then 0x9F else 0xBF⟩ := by
  have byte : (UInt8.ofNat n).toNat = n := toNat_ofNat (by omega)
  simp only [lead, byte, beq_iff_eq]
  rw [if_neg (by omega), if_neg (by omega)]
  -- Behind the least byte overlong forms are left out, and behind `0xED` surrogates.
  by_cases least : n = 0xE0
  · simp [least]
  · by_cases surrogates : n = 0xED
    · simp [surrogates]
    · simp [least, surrogates, high]

theorem lead_four {n : Nat} (low : 0xF0 ≤ n) (high : n ≤ 0xF4) :
    lead (UInt8.ofNat n) = some ⟨n - 0xF0, 3, if n = 0xF0 then 0x90 else 0x80,
      if n = 0xF4 then 0x8F else 0xBF⟩ := by
  have byte : (UInt8.ofNat n).toNat = n := toNat_ofNat (by omega)
  simp only [lead, byte, beq_iff_eq]
  rw [if_neg (by omega), if_neg (by omega), if_neg (by omega), if_neg (by omega),
    if_neg (by omega)]
  -- Behind the greatest byte all is left out that lies beyond the last character.
  by_cases least : n = 0xF0
  · simp [least]
  · by_cases greatest : n = 0xF4
    · simp [greatest]
    · rw [if_neg least, if_pos (by omega), if_neg least, if_neg greatest]

theorem continuation_cons {low high n : Nat} (atLeast : low ≤ n) (atMost : n ≤ high)
    (byte : n < 256) (count bits : Nat) (rest : List UInt8) :
    continuation (count + 1) bits low high (UInt8.ofNat n :: rest) =
      continuation count (bits * 64 + (n - 0x80)) 0x80 0xBF rest := by
  rw [continuation, toNat_ofNat byte, if_pos ⟨atLeast, atMost⟩]

theorem first_of_lead {n : Nat} {l : Lead} (byte : n < 256) (several : 0x80 ≤ n)
    (promise : lead (UInt8.ofNat n) = some l) (rest : List UInt8) :
    first (UInt8.ofNat n) rest = continuation l.following l.bits l.low l.high rest := by
  rw [first, toNat_ofNat byte, if_neg (by omega), promise]

/-- The bytes of a character are read as that character, whatever follows them. -/
theorem decode_utf8EncodeChar_append (c : Char) (rest : List UInt8) :
    decode (String.utf8EncodeChar c ++ rest) = c :: decode rest := by
  -- Surrogates are no characters.
  have bounds : c.val.toNat < 0xD800 ∨ 0xDFFF < c.val.toNat ∧ c.val.toNat < 0x110000 := c.valid
  have whole : Char.ofNat c.val.toNat = c := Char.ofNat_toNat c
  rw [String.utf8EncodeChar]
  generalize c.val.toNat = v at bounds whole
  subst whole
  -- One case for each length of the encoding.
  split
  · next one =>
    rw [List.singleton_append, decode, first, toNat_ofNat (by omega), if_pos (by omega)]
  · split
    · next two =>
      have value : (v / 64 % 32 + 0xC0 - 0xC0) * 64 + (v % 64 + 0x80 - 0x80) = v := by omega
      rw [List.cons_append, decode, first_of_lead (by omega) (by omega)
        (lead_two (by omega) (by omega)), List.singleton_append,
        continuation_cons (by simp only; omega) (by simp only; omega) (by omega), continuation,
        value]
    · split
      · next three =>
        have value : ((v / 4096 % 16 + 0xE0 - 0xE0) * 64 + (v / 64 % 64 + 0x80 - 0x80)) * 64 +
            (v % 64 + 0x80 - 0x80) = v := by omega
        rw [List.cons_append, decode, first_of_lead (by omega) (by omega)
          (lead_three (by omega) (by omega)), List.cons_append,
          continuation_cons (by simp only; split <;> omega) (by simp only; split <;> omega)
            (by omega), List.singleton_append,
          continuation_cons (by omega) (by omega) (by omega), continuation, value]
      · next four =>
        have value : (((v / 262144 % 8 + 0xF0 - 0xF0) * 64 + (v / 4096 % 64 + 0x80 - 0x80)) * 64 +
            (v / 64 % 64 + 0x80 - 0x80)) * 64 + (v % 64 + 0x80 - 0x80) = v := by omega
        rw [List.cons_append, decode, first_of_lead (by omega) (by omega)
          (lead_four (by omega) (by omega)), List.cons_append,
          continuation_cons (by simp only; split <;> omega) (by simp only; split <;> omega)
            (by omega), List.cons_append,
          continuation_cons (by omega) (by omega) (by omega), List.singleton_append,
          continuation_cons (by omega) (by omega) (by omega), continuation, value]

/-- A text that is written as bytes is read as it was. -/
theorem decodeLossy_toUTF8 (text : String) : decodeLossy text.toUTF8 = text := by
  have read (cs : List Char) : decode (cs.flatMap String.utf8EncodeChar) = cs := by
    induction cs with
    | nil => simp [decode]
    | cons c cs inductionHypothesis =>
      rw [List.flatMap_cons, decode_utf8EncodeChar_append, inductionHypothesis]
  rw [decodeLossy, toList_toUTF8, read, String.ofList_toList]

end Potfile.Text.Utf8
