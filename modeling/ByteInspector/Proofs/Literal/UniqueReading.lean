import ByteInspector.Literal.Reader
import ByteInspector.Utf8.Lemmas

/-! # Literals are read in one way

An escape has one, two or four characters and nothing stands between two escapes. Still no literal is
the front of another: what the reader has taken for a literal it takes for one whatever follows, so a
proper front of a literal, which the rest completes to other bytes or to none, cannot be read.
-/
namespace ByteInspector.Literal

/-- The reader looks at nothing behind the closing quote. -/
theorem readBody_append {cs : List Char} {read : Bytes × List Char} (h : readBody cs = some read)
    (more : List Char) : readBody (cs ++ more) = some (read.1, read.2 ++ more) := by
  fun_induction readBody cs generalizing read with
  | case1 => cases h
  | case2 rest =>
    cases h
    rfl
  | case3 high low rest v w hlow hhigh ih =>
    obtain ⟨r, hr, rfl⟩ := Option.map_eq_some_iff.mp h
    simp only [List.cons_append, readBody, hlow, hhigh, ih hr, Option.map_some]
  | case4 => cases h
  | case5 c rest hhex b hb ih =>
    obtain ⟨r, hr, rfl⟩ := Option.map_eq_some_iff.mp h
    have hc : c ≠ 'x' := by
      rintro rfl
      cases hb
    rw [List.cons_append, List.cons_append, readBody]
    · rw [hb, ih hr]
      rfl
    · exact fun _ _ _ h => absurd h hc
  | case6 => cases h
  | case7 c rest hquote hhex hslash hc ih =>
    obtain ⟨r, hr, rfl⟩ := Option.map_eq_some_iff.mp h
    rw [List.cons_append, readBody]
    · rw [if_pos hc, ih hr]
      rfl
    · exact hquote
    · exact fun _ _ _ h => absurd h hc.1
    · exact fun _ _ h => absurd h hc.1
  | case8 => cases h

theorem readByteString_append {cs : List Char} {read : Bytes × List Char}
    (h : readByteString cs = some read) (more : List Char) :
    readByteString (cs ++ more) = some (read.1, read.2 ++ more) := by
  unfold readByteString at h
  split at h
  · next rest => exact readBody_append h more
  · cases h

theorem readByteString_byteString_append (bs : Bytes) (rest : List Char) :
    readByteString ((byteString bs).toList ++ rest) = some (bs, rest) := by
  rw [toList_byteString]
  exact readByteString_byteStringChars_append bs rest

theorem readByteString_byteString (bs : Bytes) :
    readByteString (byteString bs).toList = some (bs, []) := by
  have h := readByteString_byteString_append bs []
  rwa [List.append_nil] at h

theorem byteString_injective : Function.Injective byteString := by
  intro bs other h
  have hread := readByteString_byteString bs
  rw [h, readByteString_byteString other] at hread
  exact (Prod.mk.inj (Option.some.inj hread)).1.symm

/-- A literal that is cut short cannot be read. -/
theorem readByteString_eq_none_of_append {bs : Bytes} {front back : List Char}
    (h : (byteString bs).toList = front ++ back) (hback : back ≠ []) :
    readByteString front = none := by
  cases hread : readByteString front with
  | none => rfl
  | some read =>
    have hwhole := readByteString_byteString bs
    rw [h, readByteString_append hread back] at hwhole
    have hrest : read.2 ++ back = [] := (Prod.mk.inj (Option.some.inj hwhole)).2
    exact absurd (List.append_eq_nil_iff.mp hrest).2 hback

theorem printable_of_mem_encode_byteString {bs : Bytes} {b : UInt8}
    (h : b ∈ Utf8.encode (byteString bs)) : 0x20 ≤ b ∧ b ≤ 0x7E := by
  have hprintable : ∀ c ∈ (byteString bs).toList, 0x20 ≤ c.toNat ∧ c.toNat ≤ 0x7E := by
    intro c hc
    rw [toList_byteString] at hc
    exact printable_of_mem_byteStringChars hc
  have hascii : ∀ c ∈ (byteString bs).toList, c.toNat < 0x80 := by
    intro c hc
    have hhigh := (hprintable c hc).2
    omega
  obtain ⟨c, hc, hvalue⟩ := Utf8.exists_char_of_mem_encode hascii h
  obtain ⟨hlow, hhigh⟩ := hprintable c hc
  rw [← hvalue] at hlow hhigh
  exact ⟨UInt8.le_iff_toNat_le.mpr hlow, UInt8.le_iff_toNat_le.mpr hhigh⟩

structure IsLiteralOf (bs : Bytes) (literal : String) : Prop where
  framed : ∃ body, literal.toList = ['b', '"'] ++ body ++ ['"']
  printable : ∀ b ∈ Utf8.encode literal, 0x20 ≤ b ∧ b ≤ 0x7E
  /-- All of it is read, and nothing of what follows. -/
  read_append : ∀ rest, readByteString (literal.toList ++ rest) = some (bs, rest)
  /-- What is read from it is written in the same way. -/
  written : ∀ read rest, readByteString literal.toList = some (read, rest) →
    byteString read = literal ∧ rest = []
  unique : ∀ other, byteString other = literal → other = bs
  /-- No quote before the last one closes it. -/
  open_until_end : ∀ front back, literal.toList = front ++ back → back ≠ [] →
    readByteString front = none

/-- Any bytes are written so that they are read back, in one way. -/
theorem isLiteralOf_byteString (bs : Bytes) : IsLiteralOf bs (byteString bs) where
  framed := ⟨bs.flatMap escapeByte, String.toList_ofList⟩
  printable := fun _ h => printable_of_mem_encode_byteString h
  read_append := readByteString_byteString_append bs
  written := by
    intro read rest h
    rw [readByteString_byteString bs] at h
    cases h
    exact ⟨rfl, rfl⟩
  unique := fun _ h => byteString_injective h
  open_until_end := fun _ _ h hback => readByteString_eq_none_of_append h hback

/-- Bytes that look like an escape are told from the byte that it stands for. -/
example : byteString [0x5C, 0x78, 0x46, 0x46] = "b\"\\\\xFF\"" ∧ byteString [0xFF] = "b\"\\xff\"" := by
  decide

end ByteInspector.Literal
