import ByteInspector.Proofs.Rendering.Permissive

/-! # What the policies differ in

Bytes are shown alike under both policies but for the marks, one for each malformed part. A mark takes
three bytes of text and a malformed part has one to three, so that the length of the bytes lies between
the lengths of the two texts.
-/
namespace ByteInspector

namespace Utf8

/-- The second text is the first with so many marks put in. -/
inductive Marked : Nat → List Char → List Char → Prop where
  | nil : Marked 0 [] []
  | keep {n : Nat} {cs ds : List Char} (c : Char) : Marked n cs ds → Marked n (c :: cs) (c :: ds)
  | mark {n : Nat} {cs ds : List Char} : Marked n cs ds → Marked (n + 1) cs ('\uFFFD' :: ds)

def malformedCount : List Segment → Nat
  | [] => 0
  | .sequence _ :: rest => malformedCount rest
  | .malformed _ :: rest => malformedCount rest + 1

variable {n : Nat} {cs ds : List Char} {bs : Bytes} {segments : List Segment}

theorem Marked.sublist (h : Marked n cs ds) : cs.Sublist ds := by
  induction h with
  | nil => exact .slnil
  | keep c _ ih => exact .cons_cons c ih
  | mark _ ih => exact .cons _ ih

/-- Without all marks, those of the first text among them, nothing tells the texts apart. -/
theorem Marked.filter_eq (h : Marked n cs ds) :
    cs.filter (· ≠ '\uFFFD') = ds.filter (· ≠ '\uFFFD') := by
  induction h with
  | nil => rfl
  | keep c _ ih => rw [List.filter_cons, List.filter_cons, ih]
  | mark _ ih => rw [ih, List.filter_cons_of_neg (by decide)]

theorem Marked.count_eq (h : Marked n cs ds) : ds.count '\uFFFD' = cs.count '\uFFFD' + n := by
  induction h with
  | nil => rfl
  | keep c _ ih =>
    rw [List.count_cons, List.count_cons, ih]
    omega
  | mark _ ih =>
    rw [List.count_cons_self, ih]
    omega

theorem Marked.width_eq (h : Marked n cs ds) : width ds = width cs + 3 * n := by
  have hsize : '\uFFFD'.utf8Size = 3 := by decide
  induction h with
  | nil => rfl
  | keep c _ ih =>
    rw [width_cons, width_cons, ih]
    omega
  | mark _ ih =>
    rw [width_cons, ih, hsize]
    omega

theorem Marked.eq_of_zero (h : Marked 0 cs ds) : cs = ds := by
  generalize hn : 0 = n at h
  induction h with
  | nil => rfl
  | keep c _ ih => rw [ih hn]
  | mark _ _ => cases hn

theorem Marked.eq_iff (h : Marked n cs ds) : cs = ds ↔ n = 0 := by
  constructor
  · intro heq
    have hwidth := h.width_eq
    rw [heq] at hwidth
    omega
  · rintro rfl
    exact h.eq_of_zero

/-- Segment by segment the policies show the same, or the one nothing and the other the mark. -/
theorem marked_shown (segments : List Segment) :
    Marked (malformedCount segments) (segments.flatMap Policy.ignore.shown)
      (segments.flatMap Policy.replace.shown) := by
  induction segments with
  | nil => exact .nil
  | cons segment rest ih =>
    cases segment with
    | sequence s => exact .keep (scalarValue s) ih
    | malformed part => exact .mark ih

theorem length_of_isSequence {s : Bytes} (h : IsSequence s) : s.length = (scalarValue s).utf8Size := by
  rw [← String.length_utf8EncodeChar, utf8EncodeChar_scalarValue h]

/-- A sequence is as long as its character, and a malformed part adds one to three bytes. -/
theorem Cut.length_bounds (h : Cut bs segments) :
    width (segments.flatMap Policy.ignore.shown) + malformedCount segments ≤ bs.length ∧
      bs.length ≤ width (segments.flatMap Policy.ignore.shown) + 3 * malformedCount segments := by
  induction h with
  | nil => exact ⟨Nat.le_refl 0, Nat.le_refl 0⟩
  | @sequence s rest more hs _ ih =>
    have hlength := length_of_isSequence hs
    rw [List.flatMap_cons, Policy.shown, List.singleton_append, width_cons, malformedCount,
      List.length_append]
    omega
  | @malformed part rest more hmal _ ih =>
    have hlow := List.length_pos_iff.mpr hmal.nonempty
    have hhigh := hmal.length_le
    rw [List.flatMap_cons, Policy.shown, List.nil_append, malformedCount, List.length_append]
    omega

theorem scalarValue_eq_replacement_iff {s : Bytes} (h : IsSequence s) :
    scalarValue s = '\uFFFD' ↔ s = [0xEF, 0xBF, 0xBD] := by
  constructor
  · intro hs
    rw [← utf8EncodeChar_scalarValue h, hs]
    decide
  · rintro rfl
    decide

/-- What looks like a mark where malformed parts are dropped was spelled out in the bytes. -/
theorem Cut.count_replacement (h : Cut bs segments) :
    (segments.flatMap Policy.ignore.shown).count '\uFFFD' =
      segments.count (.sequence [0xEF, 0xBF, 0xBD]) := by
  induction h with
  | nil => rfl
  | @sequence s rest more hs _ ih =>
    have hiff := scalarValue_eq_replacement_iff hs
    rw [List.flatMap_cons, Policy.shown, List.singleton_append, List.count_cons, List.count_cons, ih]
    simp only [beq_iff_eq, hiff, Segment.sequence.injEq]
  | @malformed part rest more _ _ ih =>
    rw [List.flatMap_cons, Policy.shown, List.nil_append, List.count_cons, ih]
    simp

end Utf8

namespace Rendering

open Utf8

/-- How the text without marks, the text with marks and the bytes with so many malformed parts stand to
one another. Lengths are lengths in bytes. -/
structure Comparison (bs : Bytes) (n : Nat) (plain marked : String) : Prop where
  inserted : Marked n plain.toList marked.toList
  sublist : plain.toList.Sublist marked.toList
  unmarked : plain.toList.filter (· ≠ '\uFFFD') = marked.toList.filter (· ≠ '\uFFFD')
  count : marked.toList.count '\uFFFD' = plain.toList.count '\uFFFD' + n
  length_marked : (encode marked).length = (encode plain).length + 3 * n
  low : (encode plain).length + n ≤ bs.length
  high : bs.length ≤ (encode plain).length + 3 * n
  plain_le : (encode plain).length ≤ bs.length
  le_marked : bs.length ≤ (encode marked).length
  marked_le : (encode marked).length ≤ 3 * bs.length
  same_iff : plain = marked ↔ n = 0
  none_iff : n = 0 ↔ (encode plain).length = bs.length

theorem comparison_of_marked {plain marked : String} {n : Nat} {bs : Bytes}
    (h : Marked n plain.toList marked.toList) (hlow : (encode plain).length + n ≤ bs.length)
    (hhigh : bs.length ≤ (encode plain).length + 3 * n) : Comparison bs n plain marked := by
  have hlength : (encode marked).length = (encode plain).length + 3 * n := by
    rw [length_encode, length_encode, h.width_eq]
  have hsame : plain = marked ↔ n = 0 := String.toList_inj.symm.trans h.eq_iff
  exact ⟨h, h.sublist, h.filter_eq, h.count_eq, hlength, hlow, hhigh, by omega, by omega, by omega,
    hsame, by omega⟩

/-- The bytes are cut in one way; the policies differ by one mark for each malformed part of that
cutting, and U+FFFD that the bytes spell out is none of these marks. -/
theorem comparison_ofBytes (bs : Bytes) :
    ∃ segments, Cut bs segments ∧ (∀ other, Cut bs other → other = segments) ∧
      (ofBytes .ignore bs).text.toList.count '\uFFFD' =
        segments.count (.sequence [0xEF, 0xBF, 0xBD]) ∧
      Comparison bs (malformedCount segments) (ofBytes .ignore bs).text
        (ofBytes .replace bs).text := by
  have hcut := cut_pieces bs
  have htext : ∀ policy : Policy, (ofBytes policy bs).text.toList =
      ((pieces bs).map Piece.segment).flatMap policy.shown := fun policy =>
    policy.toList_decodeText bs
  refine ⟨_, hcut, fun other hother => hother.eq hcut, ?_, comparison_of_marked ?_ ?_ ?_⟩
  · rw [htext .ignore]
    exact hcut.count_replacement
  · rw [htext .ignore, htext .replace]
    exact marked_shown _
  · rw [length_encode, htext .ignore]
    exact hcut.length_bounds.1
  · rw [length_encode, htext .ignore]
    exact hcut.length_bounds.2

end Rendering

end ByteInspector
