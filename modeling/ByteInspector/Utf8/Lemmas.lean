import ByteInspector.Utf8.Encoding

/-! # Pieces and encodings

Cutting loses no byte and counts none twice: the pieces' bytes, put together, are the bytes that were
cut. An encoded text is cut back into its characters.
-/
namespace ByteInspector.Utf8

theorem toNat_ofNat {n : Nat} (h : n.isValidChar) : (Char.ofNat n).val.toNat = n := by
  rw [Char.ofNat, dif_pos h]
  rfl

/-- The kinds of lead bytes, each with what it asks for. -/
theorem Lead.ofByte?_cases {b : UInt8} {lead : Lead} (h : Lead.ofByte? b = some lead) :
    (0xC2 ≤ b.toNat ∧ b.toNat < 0xE0 ∧ lead = ⟨1, 0x80, 0xBF, b.toNat - 0xC0⟩) ∨
    (0xE0 ≤ b.toNat ∧ b.toNat < 0xF0 ∧
      lead = ⟨2, if b = 0xE0 then 0xA0 else 0x80, if b = 0xED then 0x9F else 0xBF,
        b.toNat - 0xE0⟩) ∨
    (0xF0 ≤ b.toNat ∧ b.toNat < 0xF5 ∧
      lead = ⟨3, if b = 0xF0 then 0x90 else 0x80, if b = 0xF4 then 0x8F else 0xBF,
        b.toNat - 0xF0⟩) := by
  simp only [Lead.ofByte?, UInt8.lt_iff_toNat_lt] at h
  have e0 : (0xC2 : UInt8).toNat = 0xC2 := rfl
  have e1 : (0xE0 : UInt8).toNat = 0xE0 := rfl
  have e2 : (0xF0 : UInt8).toNat = 0xF0 := rfl
  have e3 : (0xF5 : UInt8).toNat = 0xF5 := rfl
  rw [e0, e1, e2, e3] at h
  split at h
  · cases h
  · split at h
    · exact Or.inl ⟨by omega, by omega, (Option.some.inj h).symm⟩
    · split at h
      · exact Or.inr (Or.inl ⟨by omega, by omega, (Option.some.inj h).symm⟩)
      · split at h
        · exact Or.inr (Or.inr ⟨by omega, by omega, (Option.some.inj h).symm⟩)
        · cases h

theorem Lead.take_cons {lead : Lead} {bs ts : Bytes} {t : UInt8} (h : lead.take bs = t :: ts) :
    (lead.low ≤ t ∧ t ≤ lead.high) ∧ (∀ u ∈ ts, isTrailing u = true) ∧
      ts.length ≤ lead.trailing - 1 := by
  cases bs with
  | nil => simp [Lead.take] at h
  | cons b rest =>
    simp only [Lead.take] at h
    split at h
    · next hrange =>
      obtain ⟨rfl, rfl⟩ := List.cons.inj h
      refine ⟨hrange, fun u hu => ?_, ?_⟩
      · exact (List.all_eq_true.mp List.all_takeWhile) u hu
      · exact Nat.le_trans (List.takeWhile_prefix _).length_le (List.length_take_le _ _)
    · cases h

theorem isTrailing_iff (b : UInt8) : isTrailing b = true ↔ 0x80 ≤ b.toNat ∧ b.toNat ≤ 0xBF := by
  simp [isTrailing, UInt8.le_iff_toNat_le]

theorem not_lt_of_isTrailing {b : UInt8} (h : isTrailing b = true) : ¬ b < 0x80 := by
  have hb := ((isTrailing_iff b).mp h).1
  exact fun hlt => Nat.not_le.mpr (UInt8.lt_iff_toNat_lt.mp hlt) hb

theorem isTrailing_ofNat (n : Nat) : isTrailing (UInt8.ofNat (n % 64 + 128)) = true := by
  rw [isTrailing_iff, UInt8.toNat_ofNat']
  omega

/-- Behind one lead byte the range of the second byte begins later, behind another it ends earlier. -/
theorem narrowed_iff {b k l low high t : UInt8} :
    ((if b = k then low else 0x80) ≤ t ∧ t ≤ if b = l then high else 0xBF) ↔
      ((b.toNat = k.toNat → low.toNat ≤ t.toNat) ∧ (b.toNat ≠ k.toNat → 0x80 ≤ t.toNat)) ∧
        (b.toNat = l.toNat → t.toNat ≤ high.toNat) ∧ (b.toNat ≠ l.toNat → t.toNat ≤ 0xBF) := by
  have hlow : (0x80 : UInt8).toNat = 0x80 := rfl
  have hhigh : (0xBF : UInt8).toNat = 0xBF := rfl
  simp only [UInt8.le_iff_toNat_le, ← UInt8.toNat_inj]
  split <;> split <;> omega

theorem ofNat_eq {n : Nat} {b : UInt8} (h : n = b.toNat) : UInt8.ofNat n = b := by
  rw [h, UInt8.ofNat_toNat]

theorem toNat_ofNat_byte {n : Nat} (h : n < 256) : (UInt8.ofNat n).toNat = n := by
  rw [UInt8.toNat_ofNat']
  omega

theorem ofNat_le_ofNat {k n : Nat} (h : k ≤ n) (hn : n < 256) : UInt8.ofNat k ≤ UInt8.ofNat n := by
  rw [UInt8.le_iff_toNat_le, toNat_ofNat_byte hn, toNat_ofNat_byte (by omega)]
  exact h

theorem exists_utf8EncodeChar_eq_cons (c : Char) : ∃ b tail, String.utf8EncodeChar c = b :: tail := by
  apply List.exists_cons_of_length_pos
  rw [String.length_utf8EncodeChar]
  exact c.utf8Size_pos

theorem utf8EncodeChar_one {v : Nat} (h : v < 0x80) :
    String.utf8EncodeChar (Char.ofNat v) = [UInt8.ofNat v] := by
  have hv : (Char.ofNat v).val.toNat = v := toNat_ofNat (Or.inl (by omega))
  have hrange : v ≤ 127 := by omega
  simp only [String.utf8EncodeChar, hv, if_pos hrange]

theorem utf8EncodeChar_of_lt {c : Char} (h : c.toNat < 0x80) :
    String.utf8EncodeChar c = [UInt8.ofNat c.toNat] := by
  have hone := utf8EncodeChar_one h
  rwa [Char.ofNat_toNat] at hone

/-- The bytes of a text in ASCII are the numbers of its characters. -/
theorem exists_char_of_mem_encode {text : String} (htext : ∀ c ∈ text.toList, c.toNat < 0x80)
    {b : UInt8} (h : b ∈ encode text) : ∃ c ∈ text.toList, b.toNat = c.toNat := by
  obtain ⟨c, hc, hb⟩ := List.mem_flatMap.mp h
  have hsmall := htext c hc
  rw [utf8EncodeChar_of_lt hsmall] at hb
  obtain rfl := List.mem_singleton.mp hb
  exact ⟨c, hc, toNat_ofNat_byte (by omega)⟩

theorem utf8EncodeChar_two {v : Nat} (hlow : 0x80 ≤ v) (hhigh : v < 0x800) :
    String.utf8EncodeChar (Char.ofNat v) =
      [UInt8.ofNat (v / 64 + 192), UInt8.ofNat (v % 64 + 128)] := by
  have hv : (Char.ofNat v).val.toNat = v := toNat_ofNat (Or.inl (by omega))
  have hone : ¬ v ≤ 127 := by omega
  have htwo : v ≤ 2047 := by omega
  have hbits : v / 64 % 32 = v / 64 := by omega
  simp only [String.utf8EncodeChar, hv, if_neg hone, if_pos htwo, hbits]

theorem utf8EncodeChar_three {v : Nat} (hvalid : v.isValidChar) (hlow : 0x800 ≤ v)
    (hhigh : v < 0x10000) :
    String.utf8EncodeChar (Char.ofNat v) =
      [UInt8.ofNat (v / 4096 + 224), UInt8.ofNat (v / 64 % 64 + 128),
        UInt8.ofNat (v % 64 + 128)] := by
  have hv : (Char.ofNat v).val.toNat = v := toNat_ofNat hvalid
  have hone : ¬ v ≤ 127 := by omega
  have htwo : ¬ v ≤ 2047 := by omega
  have hthree : v ≤ 65535 := by omega
  have hbits : v / 4096 % 16 = v / 4096 := by omega
  simp only [String.utf8EncodeChar, hv, if_neg hone, if_neg htwo, if_pos hthree, hbits]

theorem utf8EncodeChar_four {v : Nat} (hlow : 0x10000 ≤ v) (hhigh : v < 0x110000) :
    String.utf8EncodeChar (Char.ofNat v) =
      [UInt8.ofNat (v / 262144 + 240), UInt8.ofNat (v / 4096 % 64 + 128),
        UInt8.ofNat (v / 64 % 64 + 128), UInt8.ofNat (v % 64 + 128)] := by
  have hv : (Char.ofNat v).val.toNat = v := toNat_ofNat (Or.inr ⟨by omega, by omega⟩)
  have hone : ¬ v ≤ 127 := by omega
  have htwo : ¬ v ≤ 2047 := by omega
  have hthree : ¬ v ≤ 65535 := by omega
  have hbits : v / 262144 % 8 = v / 262144 := by omega
  simp only [String.utf8EncodeChar, hv, if_neg hone, if_neg htwo, if_neg hthree, hbits]

/-- A lead byte with all its trailing bytes is the encoding of the scalar that they give. -/
theorem Lead.encode_scalar {b : UInt8} {lead : Lead} {bs : Bytes}
    (hlead : Lead.ofByte? b = some lead) (hfull : (lead.take bs).length = lead.trailing) :
    String.utf8EncodeChar (lead.scalar (lead.take bs)) = b :: lead.take bs := by
  have htail : ∀ t ts, lead.take bs = t :: ts → _ := fun t ts h => Lead.take_cons h
  generalize lead.take bs = tail at hfull htail
  rcases Lead.ofByte?_cases hlead with ⟨hlow, hhigh, rfl⟩ | ⟨hlow, hhigh, rfl⟩ | ⟨hlow, hhigh, rfl⟩
  · obtain ⟨t, rfl⟩ := List.length_eq_one_iff.mp hfull
    obtain ⟨⟨h1, h2⟩, -, -⟩ := htail t [] rfl
    have h1 : 0x80 ≤ t.toNat := UInt8.le_iff_toNat_le.mp h1
    have h2 : t.toNat ≤ 0xBF := UInt8.le_iff_toNat_le.mp h2
    simp only [Lead.scalar, List.foldl_cons, List.foldl_nil]
    rw [utf8EncodeChar_two (by omega) (by omega), ofNat_eq (b := b) (by omega),
      ofNat_eq (b := t) (by omega)]
  · obtain ⟨t, u, rfl⟩ : ∃ t u, tail = [t, u] := by
      match tail, hfull with
      | [t, u], _ => exact ⟨t, u, rfl⟩
    obtain ⟨ht, h3, -⟩ := htail t [u] rfl
    have h3 := (isTrailing_iff u).mp (h3 u List.mem_cons_self)
    have hnarrowed : ((b.toNat = 0xE0 → 0xA0 ≤ t.toNat) ∧ (b.toNat ≠ 0xE0 → 0x80 ≤ t.toNat)) ∧
        (b.toNat = 0xED → t.toNat ≤ 0x9F) ∧ (b.toNat ≠ 0xED → t.toNat ≤ 0xBF) := narrowed_iff.mp ht
    have hvalid : (((b.toNat - 0xE0) * 64 + (t.toNat - 0x80)) * 64 + (u.toNat - 0x80)).isValidChar := by
      -- the surrogates lie between the values that ED and EE open
      by_cases h : b.toNat ≤ 0xED
      · left
        omega
      · right
        constructor <;> omega
    simp only [Lead.scalar, List.foldl_cons, List.foldl_nil]
    rw [utf8EncodeChar_three hvalid (by omega) (by omega), ofNat_eq (b := b) (by omega),
      ofNat_eq (b := t) (by omega), ofNat_eq (b := u) (by omega)]
  · obtain ⟨t, u, w, rfl⟩ : ∃ t u w, tail = [t, u, w] := by
      match tail, hfull with
      | [t, u, w], _ => exact ⟨t, u, w, rfl⟩
    obtain ⟨ht, h3, -⟩ := htail t [u, w] rfl
    have h4 := (isTrailing_iff w).mp (h3 w (by simp))
    have h3 := (isTrailing_iff u).mp (h3 u List.mem_cons_self)
    have hnarrowed : ((b.toNat = 0xF0 → 0x90 ≤ t.toNat) ∧ (b.toNat ≠ 0xF0 → 0x80 ≤ t.toNat)) ∧
        (b.toNat = 0xF4 → t.toNat ≤ 0x8F) ∧ (b.toNat ≠ 0xF4 → t.toNat ≤ 0xBF) := narrowed_iff.mp ht
    simp only [Lead.scalar, List.foldl_cons, List.foldl_nil]
    rw [utf8EncodeChar_four (by omega) (by omega), ofNat_eq (b := b) (by omega),
      ofNat_eq (b := t) (by omega), ofNat_eq (b := u) (by omega), ofNat_eq (b := w) (by omega)]

theorem first_bytes (b : UInt8) (rest : Bytes) :
    (first b rest).1.bytes ++ (first b rest).2 = b :: rest := by
  unfold first
  split
  · next h =>
    have hb : b.toNat < 0x80 := UInt8.lt_iff_toNat_lt.mp h
    rw [Piece.bytes, utf8EncodeChar_one hb, UInt8.ofNat_toNat, List.singleton_append]
  · split
    · rfl
    · next lead hlead =>
      dsimp only
      split
      · next hfull =>
        simp only [Piece.bytes, Lead.encode_scalar hlead hfull, List.cons_append]
        rw [Lead.take_append_drop]
      · simp only [Piece.bytes, List.cons_append]
        rw [Lead.take_append_drop]

/-- No byte is lost and none is counted twice. -/
theorem flatMap_bytes_pieces (bs : Bytes) : (pieces bs).flatMap Piece.bytes = bs := by
  fun_induction pieces bs with
  | case1 => rfl
  | case2 b rest ih => rw [List.flatMap_cons, ih, first_bytes]

theorem Lead.ofByte?_two {b : UInt8} (hlow : 0xC2 ≤ b.toNat) (hhigh : b.toNat < 0xE0) :
    Lead.ofByte? b = some ⟨1, 0x80, 0xBF, b.toNat - 0xC0⟩ := by
  have h0 : ¬ b < 0xC2 := fun h => Nat.not_le.mpr (UInt8.lt_iff_toNat_lt.mp h) hlow
  have h1 : b < 0xE0 := UInt8.lt_iff_toNat_lt.mpr hhigh
  simp [Lead.ofByte?, h0, h1]

theorem Lead.ofByte?_three {b : UInt8} (hlow : 0xE0 ≤ b.toNat) (hhigh : b.toNat < 0xF0) :
    Lead.ofByte? b =
      some ⟨2, if b = 0xE0 then 0xA0 else 0x80, if b = 0xED then 0x9F else 0xBF,
        b.toNat - 0xE0⟩ := by
  have h0 : ¬ b < 0xC2 := fun h => by
    have h : b.toNat < 0xC2 := UInt8.lt_iff_toNat_lt.mp h
    omega
  have h1 : ¬ b < 0xE0 := fun h => Nat.not_le.mpr (UInt8.lt_iff_toNat_lt.mp h) hlow
  have h2 : b < 0xF0 := UInt8.lt_iff_toNat_lt.mpr hhigh
  simp [Lead.ofByte?, h0, h1, h2]

theorem Lead.ofByte?_four {b : UInt8} (hlow : 0xF0 ≤ b.toNat) (hhigh : b.toNat < 0xF5) :
    Lead.ofByte? b =
      some ⟨3, if b = 0xF0 then 0x90 else 0x80, if b = 0xF4 then 0x8F else 0xBF,
        b.toNat - 0xF0⟩ := by
  have h0 : ¬ b < 0xC2 := fun h => by
    have h : b.toNat < 0xC2 := UInt8.lt_iff_toNat_lt.mp h
    omega
  have h1 : ¬ b < 0xE0 := fun h => by
    have h : b.toNat < 0xE0 := UInt8.lt_iff_toNat_lt.mp h
    omega
  have h2 : ¬ b < 0xF0 := fun h => Nat.not_le.mpr (UInt8.lt_iff_toNat_lt.mp h) hlow
  have h3 : b < 0xF5 := UInt8.lt_iff_toNat_lt.mpr hhigh
  simp [Lead.ofByte?, h0, h1, h2, h3]

/-- A lead byte followed by as many fitting bytes as it asks for opens a scalar. -/
theorem first_of_lead {b : UInt8} {lead : Lead} (t : UInt8) (ts rest : Bytes)
    (hb : 0x80 ≤ b.toNat) (hlead : Lead.ofByte? b = some lead)
    (ht : lead.low ≤ t ∧ t ≤ lead.high) (hts : ∀ u ∈ ts, isTrailing u = true)
    (hlength : ts.length + 1 = lead.trailing) :
    first b (t :: (ts ++ rest)) = (.scalar (lead.scalar (t :: ts)), rest) := by
  have hascii : ¬ b < 0x80 := fun h => Nat.not_le.mpr (UInt8.lt_iff_toNat_lt.mp h) hb
  have htake : lead.take (t :: (ts ++ rest)) = t :: ts := by
    have hcount : lead.trailing - 1 = ts.length := by omega
    simp only [Lead.take, if_pos ht, hcount, List.take_left']
    have hself : (ts ++ []).takeWhile isTrailing = ts ++ [] := List.takeWhile_append_of_pos hts
    rw [List.append_nil] at hself
    rw [hself]
  simp only [first, if_neg hascii, hlead, htake, List.length_cons, hlength, if_true]
  congr 1
  rw [← hlength]
  simp

theorem utf8EncodeChar_injective : Function.Injective String.utf8EncodeChar := by
  intro c d h
  have hc := @ByteArray.utf8DecodeChar?_utf8EncodeChar_append .empty c
  rw [h, ByteArray.utf8DecodeChar?_utf8EncodeChar_append] at hc
  exact (Option.some.inj hc).symm

/-- A character whose bytes are what a lead byte asks for is the first piece of them. -/
theorem pieces_of_lead {c : Char} {b t : UInt8} {ts : Bytes} {lead : Lead}
    (hchar : String.utf8EncodeChar c = b :: t :: ts) (hlead : Lead.ofByte? b = some lead)
    (ht : lead.low ≤ t ∧ t ≤ lead.high) (hts : ∀ u ∈ ts, isTrailing u = true)
    (hlength : ts.length + 1 = lead.trailing) (rest : Bytes) :
    pieces (String.utf8EncodeChar c ++ rest) = .scalar c :: pieces rest := by
  have hb : 0x80 ≤ b.toNat := by
    rcases Lead.ofByte?_cases hlead with h | h | h <;> omega
  have hfirst := first_of_lead t ts rest hb hlead ht hts hlength
  have hbytes := first_bytes b (t :: (ts ++ rest))
  rw [hfirst, ← List.cons_append, ← List.cons_append, ← hchar] at hbytes
  have hscalar : lead.scalar (t :: ts) = c :=
    utf8EncodeChar_injective (List.append_cancel_right hbytes)
  rw [hchar, List.cons_append, List.cons_append, pieces_cons, hfirst, hscalar]

/-- The first piece of an encoded character is the character. -/
theorem pieces_utf8EncodeChar_append (c : Char) (rest : Bytes) :
    pieces (String.utf8EncodeChar c ++ rest) = .scalar c :: pieces rest := by
  have hvalid : c.toNat.isValidChar := c.valid
  have hgap : c.toNat < 0xD800 ∨ 0xDFFF < c.toNat ∧ c.toNat < 0x110000 := hvalid
  rw [← Char.ofNat_toNat c]
  generalize c.toNat = v at hvalid hgap
  by_cases h1 : v < 0x80
  · have hb := toNat_ofNat_byte (n := v) (by omega)
    have hascii : UInt8.ofNat v < 0x80 := UInt8.lt_iff_toNat_lt.mpr (by rw [hb]; exact h1)
    rw [utf8EncodeChar_one h1, List.singleton_append, pieces_cons, first, if_pos hascii]
    simp only [hb]
  by_cases h2 : v < 0x800
  · have hb := toNat_ofNat_byte (n := v / 64 + 192) (by omega)
    exact pieces_of_lead (utf8EncodeChar_two (by omega) h2) (Lead.ofByte?_two (by omega) (by omega))
      ⟨ofNat_le_ofNat (k := 0x80) (by omega) (by omega),
        ofNat_le_ofNat (n := 0xBF) (by omega) (by omega)⟩ (List.forall_mem_nil _) rfl rest
  by_cases h3 : v < 0x10000
  · have hb := toNat_ofNat_byte (n := v / 4096 + 224) (by omega)
    have ht := toNat_ofNat_byte (n := v / 64 % 64 + 128) (by omega)
    refine pieces_of_lead (utf8EncodeChar_three hvalid (by omega) h3)
      (Lead.ofByte?_three (by omega) (by omega)) (narrowed_iff.mpr ?_) ?_ rfl rest
    · rw [hb, ht]
      change ((_ = 0xE0 → 0xA0 ≤ _) ∧ (_ ≠ 0xE0 → _)) ∧ (_ = 0xED → _ ≤ 0x9F) ∧ (_ ≠ 0xED → _)
      omega
    · exact List.forall_mem_singleton.mpr (isTrailing_ofNat v)
  · have hb := toNat_ofNat_byte (n := v / 262144 + 240) (by omega)
    have ht := toNat_ofNat_byte (n := v / 4096 % 64 + 128) (by omega)
    refine pieces_of_lead (utf8EncodeChar_four (by omega) (by omega))
      (Lead.ofByte?_four (by omega) (by omega)) (narrowed_iff.mpr ?_) ?_ rfl rest
    · rw [hb, ht]
      change ((_ = 0xF0 → 0x90 ≤ _) ∧ (_ ≠ 0xF0 → _)) ∧ (_ = 0xF4 → _ ≤ 0x8F) ∧ (_ ≠ 0xF4 → _)
      omega
    · exact List.forall_mem_cons.mpr
        ⟨isTrailing_ofNat (v / 64), List.forall_mem_singleton.mpr (isTrailing_ofNat v)⟩

/-- An encoded text is cut back into its characters, whatever bytes follow it. -/
theorem pieces_encode_append (text : String) (rest : Bytes) :
    pieces (encode text ++ rest) = text.toList.map .scalar ++ pieces rest := by
  rw [encode]
  generalize text.toList = cs
  induction cs with
  | nil => rfl
  | cons c cs ih =>
    rw [List.flatMap_cons, List.append_assoc, pieces_utf8EncodeChar_append, ih]
    rfl

theorem pieces_encode (text : String) : pieces (encode text) = text.toList.map .scalar := by
  simpa using pieces_encode_append text []

end ByteInspector.Utf8
