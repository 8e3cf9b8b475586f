import ByteInspector.Proofs.Hex.Trimming
import ByteInspector.Utf8.Lemmas

/-! # What digit pairs spell

Bytes are decoded exactly where they are digits, an even number of them, and each pair of digits spells
one byte. For a text these are the bytes between the blanks around it.
-/
namespace ByteInspector.Hex

def IsHexDigit (c : Char) : Prop :=
  ('0' ≤ c ∧ c ≤ '9') ∨ ('a' ≤ c ∧ c ≤ 'f') ∨ ('A' ≤ c ∧ c ≤ 'F')

instance (c : Char) : Decidable (IsHexDigit c) := inferInstanceAs (Decidable (_ ∨ _))

def IsDigitOf (v : Nat) (c : Char) : Prop :=
  v < 16 ∧ (c = Nat.digitChar v ∨ c = (Nat.digitChar v).toUpper)

instance (v : Nat) (c : Char) : Decidable (IsDigitOf v c) := inferInstanceAs (Decidable (_ ∧ _))

theorem isSome_value?_iff {c : Char} : (value? c).isSome = true ↔ IsHexDigit c := by
  simp only [value?, IsHexDigit]
  split
  · next h => simp [h]
  split
  · next h => simp [h]
  split
  · next h => simp [h]
  · next h1 h2 h3 => simp [h1, h2, h3]

theorem isHexDigit_of_value? {c : Char} {v : Nat} (h : value? c = some v) : IsHexDigit c := by
  apply isSome_value?_iff.mp
  rw [h, Option.isSome_some]

theorem not_isHexDigit_of_value? {c : Char} (h : value? c = none) : ¬ IsHexDigit c := by
  intro hc
  have hsome := isSome_value?_iff.mpr hc
  rw [h] at hsome
  cases hsome

theorem toNat_lt_of_isHexDigit {c : Char} (h : IsHexDigit c) : c.toNat < 0x80 := by
  rcases h with ⟨-, h⟩ | ⟨-, h⟩ | ⟨-, h⟩
  · exact Nat.lt_of_le_of_lt (UInt32.le_iff_toNat_le.mp h) (by decide)
  · exact Nat.lt_of_le_of_lt (UInt32.le_iff_toNat_le.mp h) (by decide)
  · exact Nat.lt_of_le_of_lt (UInt32.le_iff_toNat_le.mp h) (by decide)

theorem value?_eq_some_iff {c : Char} {v : Nat} : value? c = some v ↔ IsDigitOf v c := by
  constructor
  · intro h
    have hc := toNat_lt_of_isHexDigit (isHexDigit_of_value? h)
    have table : ∀ k : Fin 0x80, ∀ v ∈ value? (Char.ofNat k.val), IsDigitOf v (Char.ofNat k.val) := by
      decide
    have hchar := table ⟨c.toNat, hc⟩
    rw [Char.ofNat_toNat] at hchar
    exact hchar v h
  · rintro ⟨hv, rfl | rfl⟩
    · exact value?_digitChar hv
    · have table : ∀ k : Fin 16, value? (Nat.digitChar k.val).toUpper = some k.val := by decide
      exact table ⟨v, hv⟩

theorem byteChar_ofNat {c : Char} (h : c.toNat < 0x80) : byteChar (UInt8.ofNat c.toNat) = c := by
  rw [byteChar, Utf8.toNat_ofNat_byte (by omega), Char.ofNat_toNat]

theorem toNat_byteChar (b : UInt8) : (byteChar b).toNat = b.toNat := by
  have hb := b.toNat_lt
  exact Utf8.toNat_ofNat (Or.inl (by omega))

theorem toNat_lt_of_isHexDigit_byteChar {b : UInt8} (h : IsHexDigit (byteChar b)) :
    b.toNat < 0x80 := by
  rw [← toNat_byteChar b]
  exact toNat_lt_of_isHexDigit h

inductive Spells : Bytes → Bytes → Prop where
  | nil : Spells [] []
  | cons {x y : UInt8} {high low : Nat} {ds bs : Bytes} :
      IsDigitOf high (byteChar x) → IsDigitOf low (byteChar y) → Spells ds bs →
      Spells (x :: y :: ds) (UInt8.ofNat (16 * high + low) :: bs)

theorem decodePairs_cons_cons {index : Nat} {x y : UInt8} {ds : Bytes} {high low : Nat}
    (hx : value? (byteChar x) = some high) (hy : value? (byteChar y) = some low) :
    decodePairs index (x :: y :: ds) =
      (decodePairs (index + 2) ds).map (UInt8.ofNat (16 * high + low) :: ·) := by
  simp only [decodePairs, hx, hy]

theorem decodePairs_of_spells {ds bs : Bytes} (h : Spells ds bs) (index : Nat) :
    decodePairs index ds = .ok bs := by
  induction h generalizing index with
  | nil => rfl
  | cons hx hy _ ih =>
    rw [decodePairs_cons_cons (value?_eq_some_iff.mpr hx) (value?_eq_some_iff.mpr hy), ih]
    rfl

theorem spells_of_decodePairs {index : Nat} {ds bs : Bytes} (h : decodePairs index ds = .ok bs) :
    Spells ds bs := by
  induction index, ds using decodePairs.induct generalizing bs with
  | case1 => cases h; exact .nil
  | case2 => cases h
  | case3 index x y ds hx => simp [decodePairs, hx] at h
  | case4 index x y ds high hx hy => simp [decodePairs, hx, hy] at h
  | case5 index x y ds high low hy hx ih =>
    rw [decodePairs_cons_cons hx hy] at h
    cases hrest : decodePairs (index + 2) ds with
    | error fault => rw [hrest] at h; cases h
    | ok more =>
      rw [hrest] at h
      cases h
      exact .cons (value?_eq_some_iff.mp hx) (value?_eq_some_iff.mp hy) (ih hrest)

theorem Spells.length_eq {ds bs : Bytes} (h : Spells ds bs) : ds.length = 2 * bs.length := by
  induction h with
  | nil => rfl
  | cons _ _ _ ih =>
    simp only [List.length_cons, ih]
    omega

theorem Spells.isHexDigit {ds bs : Bytes} (h : Spells ds bs) :
    ∀ x ∈ ds, IsHexDigit (byteChar x) := by
  induction h with
  | nil => intro x hx; cases hx
  | cons hx hy _ ih =>
    intro z hz
    rcases List.mem_cons.mp hz with rfl | hz
    · exact isHexDigit_of_value? (value?_eq_some_iff.mpr hx)
    rcases List.mem_cons.mp hz with rfl | hz
    · exact isHexDigit_of_value? (value?_eq_some_iff.mpr hy)
    · exact ih z hz

/-- The byte at a place is spelled by the two digits at twice that place. -/
theorem Spells.getElem? {ds bs : Bytes} (h : Spells ds bs) {i : Nat} (hi : i < bs.length) :
    ∃ x y high low, ds[2 * i]? = some x ∧ ds[2 * i + 1]? = some y ∧
      IsDigitOf high (byteChar x) ∧ IsDigitOf low (byteChar y) ∧
      bs[i]?.map UInt8.toNat = some (16 * high + low) := by
  induction h generalizing i with
  | nil => cases hi
  | @cons x y high low ds bs hx hy _ ih =>
    cases i with
    | zero =>
      have hhigh := hx.1
      have hlow := hy.1
      refine ⟨x, y, high, low, rfl, rfl, hx, hy, ?_⟩
      rw [List.getElem?_cons_zero, Option.map_some, UInt8.toNat_ofNat',
        Nat.mod_eq_of_lt (by omega)]
    | succ i =>
      have hi : i < bs.length := by simpa using hi
      simpa [Nat.mul_succ] using ih hi

theorem exists_spells_iff {ds : Bytes} :
    (∃ bs, Spells ds bs) ↔ ds.length % 2 = 0 ∧ ∀ x ∈ ds, IsHexDigit (byteChar x) := by
  constructor
  · rintro ⟨bs, h⟩
    refine ⟨?_, h.isHexDigit⟩
    rw [h.length_eq]
    omega
  · rintro ⟨heven, hdigits⟩
    match ds with
    | [] => exact ⟨[], .nil⟩
    | [x] => cases heven
    | x :: y :: ds =>
      obtain ⟨high, hhigh⟩ := Option.isSome_iff_exists.mp
        (isSome_value?_iff.mpr (hdigits x (by simp)))
      obtain ⟨low, hlow⟩ := Option.isSome_iff_exists.mp
        (isSome_value?_iff.mpr (hdigits y (by simp)))
      have heven : ds.length % 2 = 0 := by
        simp only [List.length_cons] at heven
        omega
      have hrest : ∀ z ∈ ds, IsHexDigit (byteChar z) := by
        intro z hz
        exact hdigits z (List.mem_cons_of_mem _ (List.mem_cons_of_mem _ hz))
      obtain ⟨bs, hbs⟩ := exists_spells_iff.mpr ⟨heven, hrest⟩
      exact ⟨_, .cons (value?_eq_some_iff.mp hhigh) (value?_eq_some_iff.mp hlow) hbs⟩
termination_by ds.length

theorem decodeDigits_eq_ok_iff {ds bs : Bytes} : decodeDigits ds = .ok bs ↔ Spells ds bs := by
  unfold decodeDigits
  constructor
  · intro h
    split at h
    · cases h
    · exact spells_of_decodePairs h
  · intro h
    have hlength := h.length_eq
    rw [if_neg (by omega)]
    exact decodePairs_of_spells h 0

theorem decode_eq_ok_iff {text : String} {bs : Bytes} :
    decode text = .ok bs ↔ Spells (Utf8.encode (String.ofList (trimmed text.toList))) bs := by
  rw [← decodeDigits_eq_ok_iff, decode]
  cases decodeDigits (Utf8.encode (String.ofList (trimmed text.toList))) with
  | ok bs =>
    constructor
    · intro h
      cases h
      rfl
    · intro h
      cases h
      rfl
  | error fault =>
    constructor
    · intro h
      cases h
    · intro h
      cases h

/-- A text spells bytes exactly where what is left of it between the blanks is an even number of
digits, and then two digits in their order spell each byte. -/
theorem decode_ok_iff_digit_pairs (text : String) :
    ∃ lead body trail, Trimming text.toList lead body trail ∧
      (∀ lead' body' trail', Trimming text.toList lead' body' trail' → body' = body) ∧
      ((∃ bs, decode text = .ok bs) ↔
        (Utf8.encode (String.ofList body)).length % 2 = 0 ∧
          ∀ x ∈ Utf8.encode (String.ofList body), IsHexDigit (byteChar x)) ∧
      ∀ bs, decode text = .ok bs →
        (Utf8.encode (String.ofList body)).length = 2 * bs.length ∧
        ∀ i < bs.length, ∃ x y high low,
          (Utf8.encode (String.ofList body))[2 * i]? = some x ∧
          (Utf8.encode (String.ofList body))[2 * i + 1]? = some y ∧
          IsDigitOf high (byteChar x) ∧ IsDigitOf low (byteChar y) ∧
          bs[i]?.map UInt8.toNat = some (16 * high + low) := by
  refine ⟨_, _, _, trimming_trimmed text.toList, ?_, ?_, ?_⟩
  · intro lead' body' trail' h
    exact h.body_eq
  · rw [← exists_spells_iff]
    exact exists_congr fun bs => decode_eq_ok_iff
  · intro bs hbs
    have hspells := decode_eq_ok_iff.mp hbs
    exact ⟨hspells.length_eq, fun i hi => hspells.getElem? hi⟩

end ByteInspector.Hex
