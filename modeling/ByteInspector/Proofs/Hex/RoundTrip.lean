import ByteInspector.Proofs.Hex.Decoding

/-! # Written digits are read back

The digits written for a byte are two, none of them is a blank, and together they spell the byte.
-/
namespace ByteInspector.Hex

theorem toList_encode (bs : Bytes) : (encode bs).toList = bs.flatMap digits :=
  String.toList_ofList

theorem isHexDigit_digitChar {n : Nat} (h : n < 16) : IsHexDigit (Nat.digitChar n) :=
  isHexDigit_of_value? (value?_digitChar h)

theorem exists_digitChar_of_mem_digits {b : UInt8} {c : Char} (h : c ∈ digits b) :
    ∃ n < 16, c = Nat.digitChar n := by
  have hb : b.toNat < 256 := b.toNat_lt
  rcases List.mem_cons.mp h with rfl | h
  · exact ⟨b.toNat / 16, by omega, rfl⟩
  · obtain rfl := List.mem_singleton.mp h
    exact ⟨b.toNat % 16, by omega, rfl⟩

theorem isHexDigit_of_mem_digits {b : UInt8} {c : Char} (h : c ∈ digits b) : IsHexDigit c := by
  obtain ⟨n, hn, rfl⟩ := exists_digitChar_of_mem_digits h
  exact isHexDigit_digitChar hn

theorem not_mem_blanks_of_isHexDigit {c : Char} (h : IsHexDigit c) : c ∉ blanks := by
  intro hc
  have table : blanks.all (fun d => (value? d).isNone) = true := by decide
  have hnone := Option.isNone_iff_eq_none.mp (List.all_eq_true.mp table c hc)
  exact not_isHexDigit_of_value? hnone h

/-- Digits alone are not trimmed. -/
theorem trimmed_of_isHexDigit {cs : List Char} (h : ∀ c ∈ cs, IsHexDigit c) : trimmed cs = cs := by
  have ht : Trimming cs [] cs [] := by
    refine ⟨by simp, by simp, by simp, ?_, ?_⟩
    · intro c hc
      exact not_mem_blanks_of_isHexDigit (h c (List.mem_of_head? hc))
    · intro c hc
      exact not_mem_blanks_of_isHexDigit (h c (List.mem_of_getLast? hc))
  exact ht.body_eq.symm

theorem spells_encode_digits (bs : Bytes) :
    Spells (Utf8.encode (String.ofList (bs.flatMap digits))) bs := by
  induction bs with
  | nil => exact Spells.nil
  | cons b bs ih =>
    have hb : b.toNat < 256 := b.toNat_lt
    have hhigh := value?_digitChar (n := b.toNat / 16) (by omega)
    have hlow := value?_digitChar (n := b.toNat % 16) (by omega)
    have hx := toNat_lt_of_isHexDigit (isHexDigit_digitChar (n := b.toNat / 16) (by omega))
    have hy := toNat_lt_of_isHexDigit (isHexDigit_digitChar (n := b.toNat % 16) (by omega))
    rw [← byteChar_ofNat hx] at hhigh
    rw [← byteChar_ofNat hy] at hlow
    have hvalue : 16 * (b.toNat / 16) + b.toNat % 16 = b.toNat := by omega
    have hspells := Spells.cons (value?_eq_some_iff.mp hhigh) (value?_eq_some_iff.mp hlow) ih
    rw [hvalue, UInt8.ofNat_toNat] at hspells
    rw [List.flatMap_cons, digits, List.cons_append, List.cons_append, List.nil_append,
      Utf8.encode_ofList_cons, Utf8.encode_ofList_cons, Utf8.utf8EncodeChar_of_lt hx,
      Utf8.utf8EncodeChar_of_lt hy]
    exact hspells

/-- Reading undoes writing. -/
theorem decode_encode (bs : Bytes) : decode (encode bs) = .ok bs := by
  have hdigits : ∀ c ∈ bs.flatMap digits, IsHexDigit c := by
    intro c hc
    obtain ⟨b, -, hb⟩ := List.mem_flatMap.mp hc
    exact isHexDigit_of_mem_digits hb
  unfold encode
  rw [decode_eq_ok_iff, String.toList_ofList, trimmed_of_isHexDigit hdigits]
  exact spells_encode_digits bs

end ByteInspector.Hex
