import ByteInspector.Hex
import ByteInspector.Literal

/-! # Reading byte-string literals

The reader knows the named escapes and the two-digit escape, takes any other printable character for
itself, and stops at the first quote that is not escaped. It reads back what the writer wrote, and
leaves what follows the literal alone.
-/
namespace ByteInspector.Literal

def namedByte? (c : Char) : Option UInt8 :=
  if c = 't' then some 0x09
  else if c = 'n' then some 0x0A
  else if c = 'r' then some 0x0D
  else if c = '\'' then some 0x27
  else if c = '"' then some 0x22
  else if c = '\\' then some 0x5C
  else none

def readBody : List Char → Option (Bytes × List Char)
  | [] => none
  | '"' :: rest => some ([], rest)
  | '\\' :: 'x' :: high :: low :: rest =>
    match Hex.value? high, Hex.value? low with
    | some h, some l => (readBody rest).map fun read => (UInt8.ofNat (16 * h + l) :: read.1, read.2)
    | _, _ => none
  | '\\' :: c :: rest =>
    match namedByte? c with
    | some b => (readBody rest).map fun read => (b :: read.1, read.2)
    | none => none
  | c :: rest =>
    if c ≠ '\\' ∧ 0x20 ≤ c.toNat ∧ c.toNat ≤ 0x7E then
      (readBody rest).map fun read => (UInt8.ofNat c.toNat :: read.1, read.2)
    else none

def readByteString : List Char → Option (Bytes × List Char)
  | 'b' :: '"' :: rest => readBody rest
  | _ => none

theorem readBody_escapeByte (b : UInt8) (rest : List Char) :
    readBody (escapeByte b ++ rest) = (readBody rest).map fun read => (b :: read.1, read.2) := by
  have hb : b.toNat < 256 := b.toNat_lt
  unfold escapeByte
  split
  · next h => subst h; simp [readBody, namedByte?]
  split
  · next h => subst h; simp [readBody, namedByte?]
  split
  · next h => subst h; simp [readBody, namedByte?]
  split
  · next h => subst h; simp [readBody, namedByte?]
  split
  · next h => subst h; simp [readBody, namedByte?]
  split
  · next h => subst h; simp [readBody, namedByte?]
  split
  · next h1 h2 h3 h4 hquote hslash hprint =>
    obtain ⟨hlow, hhigh⟩ := hprint
    have hlow : 0x20 ≤ b.toNat := UInt8.le_iff_toNat_le.mp hlow
    have hhigh : b.toNat ≤ 0x7E := UInt8.le_iff_toNat_le.mp hhigh
    have hval : (Char.ofNat b.toNat).toNat = b.toNat := by
      rw [Char.ofNat, dif_pos (Or.inl (by omega))]
      rfl
    have hq : Char.ofNat b.toNat ≠ '"' := fun h => hquote (UInt8.toNat_inj.mp (by
      have h := congrArg Char.toNat h
      rw [hval] at h
      exact h))
    have hs : Char.ofNat b.toNat ≠ '\\' := fun h => hslash (UInt8.toNat_inj.mp (by
      have h := congrArg Char.toNat h
      rw [hval] at h
      exact h))
    rw [List.singleton_append, readBody]
    · rw [if_pos ⟨hs, by omega, by omega⟩, hval, UInt8.ofNat_toNat]
    · exact fun h => hq h
    · exact fun _ _ _ h => absurd h hs
    · exact fun _ _ h => absurd h hs
  · have hhigh := Hex.value?_digitChar (n := b.toNat / 16) (by omega)
    have hlow := Hex.value?_digitChar (n := b.toNat % 16) (by omega)
    have hval : 16 * (b.toNat / 16) + b.toNat % 16 = b.toNat := by omega
    simp [readBody, hhigh, hlow, hval]

theorem readBody_flatMap_escapeByte (bs : Bytes) (rest : List Char) :
    readBody (bs.flatMap escapeByte ++ '"' :: rest) = some (bs, rest) := by
  induction bs with
  | nil => simp [readBody]
  | cons b bs ih => rw [List.flatMap_cons, List.append_assoc, readBody_escapeByte, ih]; rfl

/-- A written literal is read back whole, and nothing behind it is read. -/
theorem readByteString_byteStringChars_append (bs : Bytes) (rest : List Char) :
    readByteString (byteStringChars bs ++ rest) = some (bs, rest) := by
  simp [byteStringChars, readByteString, readBody_flatMap_escapeByte]

end ByteInspector.Literal
