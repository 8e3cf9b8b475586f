import ByteInspector.Proofs.Hex.Canonical

/-! # Searching bytes, searching their digits

A search finds a needle wherever it stands in one piece, at the last place too, and an empty one anywhere.
In the digits of the bytes the digits of the needle then stand at an even place. At an odd place they lie
across the halves of bytes and say nothing about the bytes.
-/
namespace ByteInspector

namespace Bytes

/-- The runs of so many bytes, one from each place at which so many are left. -/
def windows (n : Nat) (bs : Bytes) : List Bytes :=
  (List.range (bs.length + 1 - n)).map fun i => (bs.drop i).take n

variable {needle bs : Bytes}

theorem infix_iff_exists_drop : needle <:+: bs ↔ ∃ i, needle <+: bs.drop i := by
  constructor
  · rintro ⟨front, back, rfl⟩
    refine ⟨front.length, ?_⟩
    rw [List.append_assoc, List.drop_left]
    exact List.prefix_append needle back
  · rintro ⟨i, h⟩
    exact h.isInfix.trans (List.drop_suffix i bs).isInfix

theorem mem_windows_iff {n : Nat} : needle ∈ windows n bs ↔ needle.length = n ∧ needle <:+: bs := by
  rw [windows, List.mem_map]
  constructor
  · rintro ⟨i, hi, rfl⟩
    have hi := List.mem_range.mp hi
    constructor
    · rw [List.length_take, List.length_drop]
      omega
    · exact (List.take_prefix n _).isInfix.trans (List.drop_suffix i bs).isInfix
  · rintro ⟨rfl, front, back, rfl⟩
    refine ⟨front.length, List.mem_range.mpr ?_, ?_⟩
    · simp only [List.length_append]
      omega
    · rw [List.append_assoc, List.drop_left, List.take_left]

/-- Comparing the needle with each run of its length finds it. -/
theorem occursIn_eq_any_windows (needle bs : Bytes) :
    needle.occursIn bs = (needle.isEmpty || (windows needle.length bs).any (· == needle)) := by
  apply Bool.eq_iff_iff.mpr
  rw [occursIn_iff_isInfix, Bool.or_eq_true, List.isEmpty_iff, List.any_eq_true]
  constructor
  · intro h
    exact Or.inr ⟨needle, mem_windows_iff.mpr ⟨rfl, h⟩, beq_self_eq_true needle⟩
  · rintro (rfl | ⟨run, hrun, heq⟩)
    · exact List.nil_infix
    · obtain rfl := eq_of_beq heq
      exact (mem_windows_iff.mp hrun).2

end Bytes

namespace Hex

variable {needle bs : Bytes}

theorem take_flatMap_digits (k : Nat) (bs : Bytes) :
    (bs.flatMap digits).take (2 * k) = (bs.take k).flatMap digits := by
  induction bs generalizing k with
  | nil => simp
  | cons b bs ih =>
    cases k with
    | zero => rfl
    | succ k =>
      rw [List.take_succ_cons, List.flatMap_cons, List.flatMap_cons, ← ih k]
      rfl

theorem drop_flatMap_digits (k : Nat) (bs : Bytes) :
    (bs.flatMap digits).drop (2 * k) = (bs.drop k).flatMap digits := by
  induction bs generalizing k with
  | nil => simp
  | cons b bs ih =>
    cases k with
    | zero => rfl
    | succ k =>
      rw [List.drop_succ_cons, List.flatMap_cons, ← ih k]
      rfl

/-- Bytes begin with others where their digits begin with the digits of those. -/
theorem flatMap_digits_prefix_iff :
    needle.flatMap digits <+: bs.flatMap digits ↔ needle <+: bs := by
  have hlength : (needle.flatMap digits).length = 2 * needle.length := by
    rw [← toList_encode, length_toList_encode]
  rw [List.prefix_iff_eq_take, List.prefix_iff_eq_take, hlength, take_flatMap_digits]
  constructor
  · intro h
    apply encode_injective
    rw [encode, encode, h]
  · intro h
    rw [← h]

/-- The needle stands at a place of the bytes where its digits stand at twice that place. -/
theorem prefix_drop_iff (i : Nat) :
    (encode needle).toList <+: (encode bs).toList.drop (2 * i) ↔ needle <+: bs.drop i := by
  rw [toList_encode, toList_encode, drop_flatMap_digits, flatMap_digits_prefix_iff]

/-- Digits at an even place are the digits of a run of bytes. -/
theorem infix_iff_exists_even :
    needle <:+: bs ↔ ∃ front back,
      (encode bs).toList = front ++ (encode needle).toList ++ back ∧ front.length % 2 = 0 := by
  rw [Bytes.infix_iff_exists_drop]
  constructor
  · rintro ⟨i, h⟩
    obtain ⟨back, hback⟩ := (prefix_drop_iff i).mpr h
    refine ⟨((encode bs).toList.take (2 * i)), back, ?_, ?_⟩
    · rw [List.append_assoc, hback, List.take_append_drop]
    · rw [List.length_take, length_toList_encode]
      omega
  · rintro ⟨front, back, hsplit, heven⟩
    refine ⟨front.length / 2, (prefix_drop_iff _).mp ?_⟩
    have hplace : 2 * (front.length / 2) = front.length := by omega
    rw [hplace, hsplit, List.append_assoc, List.drop_left]
    exact List.prefix_append _ back

structure Tells (needle bs : Bytes) (found : Bool) : Prop where
  in_one_piece : found = true ↔ ∃ front back, bs = front ++ needle ++ back
  in_digits : found = true ↔ ∃ front back,
    (encode bs).toList = front ++ (encode needle).toList ++ back ∧ front.length % 2 = 0
  /-- Digits at odd places alone are not counted. -/
  across_bytes : (∀ front back, (encode bs).toList = front ++ (encode needle).toList ++ back →
    front.length % 2 = 1) → found = false
  /-- Comparing the needle with every run of its length tells the same. -/
  in_windows : found =
    (needle.isEmpty || (Bytes.windows needle.length bs).any (· == needle))

/-- A search tells where a needle stands in the bytes, and where its digits stand in theirs. -/
theorem tells_occursIn (needle bs : Bytes) : Tells needle bs (needle.occursIn bs) where
  in_one_piece := by
    rw [Bytes.occursIn_iff_isInfix]
    constructor
    · rintro ⟨front, back, h⟩
      exact ⟨front, back, h.symm⟩
    · rintro ⟨front, back, h⟩
      exact ⟨front, back, h.symm⟩
  in_digits := by rw [Bytes.occursIn_iff_isInfix, infix_iff_exists_even]
  across_bytes := by
    intro hodd
    apply Bool.eq_false_iff.mpr
    intro hfound
    obtain ⟨front, back, hsplit, heven⟩ :=
      infix_iff_exists_even.mp ((Bytes.occursIn_iff_isInfix _ _).mp hfound)
    have h := hodd front back hsplit
    omega
  in_windows := Bytes.occursIn_eq_any_windows needle bs

/-- The digits of the needle stand across two bytes. -/
example : encode [0x12, 0x34] = "1234" ∧ encode [0x23] = "23" ∧
    Bytes.occursIn [0x23] [0x12, 0x34] = false := by
  decide

end Hex

end ByteInspector
