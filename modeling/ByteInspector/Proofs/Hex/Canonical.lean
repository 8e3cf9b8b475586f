import ByteInspector.Proofs.Hex.Faults
import ByteInspector.Proofs.Hex.RoundTrip

/-! # The one way of writing bytes

Many texts spell the same bytes. They differ in the blanks around the digits and in the case of the
letters, and in nothing else: written anew, bytes are the text that spelled them without those blanks
and in small letters.
-/
namespace ByteInspector.Hex

/-- The text without the blanks around it, each of the letters A to Z made small. -/
def canonical (text : String) : String := String.ofList ((trimmed text.toList).map Char.toLower)

def IsSmallDigit (c : Char) : Prop := ('0' ≤ c ∧ c ≤ '9') ∨ ('a' ≤ c ∧ c ≤ 'f')

variable {text : String} {bs ds : Bytes} {cs : List Char}

theorem canonical_eq_of_trimming {lead body trail : List Char}
    (h : Trimming text.toList lead body trail) :
    canonical text = String.ofList (body.map Char.toLower) := by
  rw [canonical, h.body_eq]

theorem isSmallDigit_digitChar {n : Nat} (h : n < 16) : IsSmallDigit (Nat.digitChar n) := by
  have table : ∀ k : Fin 16, ('0' ≤ Nat.digitChar k ∧ Nat.digitChar k ≤ '9') ∨
      ('a' ≤ Nat.digitChar k ∧ Nat.digitChar k ≤ 'f') := by decide
  exact table ⟨n, h⟩

theorem isHexDigit_of_isSmallDigit {c : Char} (h : IsSmallDigit c) : IsHexDigit c := by
  rcases h with hnumber | hletter
  · exact Or.inl hnumber
  · exact Or.inr (Or.inl hletter)

theorem toLower_of_isDigitOf {v : Nat} {c : Char} (h : IsDigitOf v c) :
    c.toLower = Nat.digitChar v := by
  have table : ∀ k : Fin 16, (Nat.digitChar k).toLower = Nat.digitChar k ∧
      (Nat.digitChar k).toUpper.toLower = Nat.digitChar k := by decide
  obtain ⟨hv, rfl | rfl⟩ := h
  · exact (table ⟨v, hv⟩).1
  · exact (table ⟨v, hv⟩).2

theorem toLower_of_not_capital {c : Char} (h : c.toNat < 0x41 ∨ 0x5A < c.toNat) : c.toLower = c := by
  apply dif_neg
  rintro ⟨hlow, hhigh⟩
  have hlow : 0x41 ≤ c.toNat := UInt32.le_iff_toNat_le.mp hlow
  have hhigh : c.toNat ≤ 0x5A := UInt32.le_iff_toNat_le.mp hhigh
  omega

theorem toLower_of_isSmallDigit {c : Char} (h : IsSmallDigit c) : c.toLower = c := by
  apply toLower_of_not_capital
  rcases h with ⟨-, h⟩ | ⟨h, -⟩
  · have hle : c.toNat ≤ 0x39 := UInt32.le_iff_toNat_le.mp h
    omega
  · have hle : 0x61 ≤ c.toNat := UInt32.le_iff_toNat_le.mp h
    omega

theorem digits_ofNat {high low : Nat} (hhigh : high < 16) (hlow : low < 16) :
    digits (UInt8.ofNat (16 * high + low)) = [Nat.digitChar high, Nat.digitChar low] := by
  have hfirst : (16 * high + low) / 16 = high := by omega
  have hsecond : (16 * high + low) % 16 = low := by omega
  rw [digits, Utf8.toNat_ofNat_byte (by omega), hfirst, hsecond]

/-- Written anew, bytes have the digits that spelled them, in small letters. -/
theorem Spells.flatMap_digits (h : Spells ds bs) :
    bs.flatMap digits = (ds.map byteChar).map Char.toLower := by
  induction h with
  | nil => rfl
  | @cons x y high low ds bs hx hy _ ih =>
    rw [List.flatMap_cons, digits_ofNat hx.1 hy.1, ih]
    simp only [List.map_cons, toLower_of_isDigitOf hx, toLower_of_isDigitOf hy, List.cons_append,
      List.nil_append]

/-- Where all bytes of a text are digits, its characters are these bytes. -/
theorem map_byteChar_encode (h : ∀ x ∈ Utf8.encode (String.ofList cs), IsHexDigit (byteChar x)) :
    (Utf8.encode (String.ofList cs)).map byteChar = cs := by
  induction cs with
  | nil => rw [String.ofList_nil, Utf8.encode_empty, List.map_nil]
  | cons c cs ih =>
    rw [Utf8.encode_ofList_cons] at h ⊢
    obtain ⟨b, tail, hchar⟩ := Utf8.exists_utf8EncodeChar_eq_cons c
    have hb : IsHexDigit (byteChar b) := h b (by rw [hchar]; exact List.mem_cons_self)
    obtain rfl := eq_byteChar_of_utf8EncodeChar hchar (toNat_lt_of_isHexDigit_byteChar hb)
    have hlt := toNat_lt_of_isHexDigit hb
    have hrest := ih fun x hx => h x (List.mem_append_right _ hx)
    rw [Utf8.utf8EncodeChar_of_lt hlt, List.singleton_append, List.map_cons, byteChar_ofNat hlt, hrest]

/-- What is read and written again is the text in its canonical form. -/
theorem encode_of_decode (h : decode text = .ok bs) : encode bs = canonical text := by
  have hspells := decode_eq_ok_iff.mp h
  have hbody := map_byteChar_encode hspells.isHexDigit
  rw [encode, canonical, hspells.flatMap_digits, hbody]

theorem encode_injective {as bs : Bytes} (h : encode as = encode bs) : as = bs := by
  have hdecode := decode_encode as
  rw [h, decode_encode] at hdecode
  exact (Except.ok.inj hdecode).symm

theorem length_toList_encode (bs : Bytes) : (encode bs).toList.length = 2 * bs.length := by
  rw [toList_encode]
  induction bs with
  | nil => rfl
  | cons b bs ih =>
    rw [List.flatMap_cons, List.length_append, ih, List.length_cons]
    simp only [digits, List.length_cons, List.length_nil]
    omega

theorem isSmallDigit_of_mem_encode {c : Char} (h : c ∈ (encode bs).toList) : IsSmallDigit c := by
  rw [toList_encode] at h
  obtain ⟨b, -, hb⟩ := List.mem_flatMap.mp h
  obtain ⟨n, hn, rfl⟩ := exists_digitChar_of_mem_digits hb
  exact isSmallDigit_digitChar hn

theorem canonical_of_isSmallDigit (h : ∀ c ∈ text.toList, IsSmallDigit c) : canonical text = text := by
  have htrimmed := trimmed_of_isHexDigit fun c hc => isHexDigit_of_isSmallDigit (h c hc)
  have hlower : text.toList.map Char.toLower = text.toList.map id :=
    List.map_congr_left fun c hc => toLower_of_isSmallDigit (h c hc)
  rw [canonical, htrimmed, hlower, List.map_id, String.ofList_toList]

/-- Digits, an even number of them, spell some bytes. -/
theorem exists_decode_eq_ok (heven : text.toList.length % 2 = 0)
    (h : ∀ c ∈ text.toList, IsHexDigit c) : ∃ bs, decode text = .ok bs := by
  have hascii : ∀ c ∈ text.toList, c.toNat < 0x80 := fun c hc => toNat_lt_of_isHexDigit (h c hc)
  have hdigits : ∀ x ∈ Utf8.encode (String.ofList text.toList), IsHexDigit (byteChar x) :=
    fun x hx => h _ (mem_of_mem_encode hascii hx)
  have hlength : (Utf8.encode (String.ofList text.toList)).length % 2 = 0 := by
    rwa [← List.length_map (f := byteChar), map_byteChar_encode hdigits]
  obtain ⟨bs, hbs⟩ := exists_spells_iff.mpr ⟨hlength, hdigits⟩
  refine ⟨bs, decode_eq_ok_iff.mpr ?_⟩
  rwa [trimmed_of_isHexDigit h]

/-- The texts that are written are those of an even number of small digits. -/
theorem exists_encode_eq_iff :
    (∃ bs, encode bs = text) ↔
      text.toList.length % 2 = 0 ∧ ∀ c ∈ text.toList, IsSmallDigit c := by
  constructor
  · rintro ⟨bs, rfl⟩
    exact ⟨by rw [length_toList_encode]; omega, fun c hc => isSmallDigit_of_mem_encode hc⟩
  · rintro ⟨heven, hsmall⟩
    obtain ⟨bs, hbs⟩ := exists_decode_eq_ok heven fun c hc => isHexDigit_of_isSmallDigit (hsmall c hc)
    exact ⟨bs, by rw [encode_of_decode hbs, canonical_of_isSmallDigit hsmall]⟩

/-- Writing and reading undo one another up to the canonical form: what is written is read back, what
is read is written in that form, and the form tells the bytes apart. -/
theorem encode_decode_up_to_canonical :
    (∀ bs, decode (encode bs) = .ok bs) ∧
    (∀ text, ∃ lead body trail, Trimming text.toList lead body trail ∧
      canonical text = String.ofList (body.map Char.toLower)) ∧
    (∀ text bs, decode text = .ok bs → encode bs = canonical text) ∧
    (∀ s t as bs, decode s = .ok as → decode t = .ok bs → (as = bs ↔ canonical s = canonical t)) ∧
    ∀ text, (∃ bs, encode bs = text) ↔
      text.toList.length % 2 = 0 ∧ ∀ c ∈ text.toList, IsSmallDigit c := by
  refine ⟨decode_encode, fun text => ?_, fun text bs => encode_of_decode, ?_,
    fun text => exists_encode_eq_iff⟩
  · exact ⟨_, _, _, trimming_trimmed text.toList, canonical_eq_of_trimming (trimming_trimmed _)⟩
  · intro s t as bs hs ht
    rw [← encode_of_decode hs, ← encode_of_decode ht]
    constructor
    · intro h
      rw [h]
    · exact encode_injective

theorem canonical_of_mixed_case :
    decode " aBCd\n" = .ok [0xAB, 0xCD] ∧ decode "abcd" = .ok [0xAB, 0xCD] ∧
      encode [0xAB, 0xCD] = canonical " aBCd\n" ∧ canonical " aBCd\n" = canonical "abcd" := by
  have hs : decode " aBCd\n" = .ok [0xAB, 0xCD] := by rfl
  have ht : decode "abcd" = .ok [0xAB, 0xCD] := by rfl
  obtain ⟨-, -, hencode, hsame, -⟩ := encode_decode_up_to_canonical
  exact ⟨hs, ht, hencode _ _ hs, (hsame _ _ _ _ hs ht).mp rfl⟩

end ByteInspector.Hex
