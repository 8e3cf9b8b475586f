import ByteInspector.Proofs.Utf8.Segmentation

/-! # Bytes put together

All bytes of a sequence behind its first are trailing bytes. A byte that is none therefore ends what
stands before it just as the end of the bytes does: a sequence that is cut short there is the same
malformed part in both places. So bytes may be read side by side where no sequence reaches across.
-/
namespace ByteInspector.Utf8

/-- No sequence reaches from the bytes on the left to those on the right. -/
def Separable (a b : Bytes) : Prop := WellFormed a ∨ ∀ x ∈ b.head?, isTrailing x = false

variable {a b bs : Bytes}

/-- A run of trailing bytes does not go on past the left side. -/
theorem matching_append {ranges : List ByteRange}
    (hranges : ∀ range ∈ ranges, ∀ x, range.1 ≤ x ∧ x ≤ range.2 → isTrailing x = true)
    (hb : ∀ x ∈ b.head?, isTrailing x = false) : matching ranges (bs ++ b) = matching ranges bs := by
  induction ranges generalizing bs with
  | nil => simp only [matching]
  | cons range ranges ih =>
    cases bs with
    | nil =>
      cases b with
      | nil => rfl
      | cons x b =>
        -- the left side is used up, and what begins the right side is in no range
        have hx : ¬ (range.1 ≤ x ∧ x ≤ range.2) := by
          intro hmem
          have htrailing := hranges range List.mem_cons_self x hmem
          rw [hb x rfl] at htrailing
          cases htrailing
        simp only [List.nil_append, matching, if_neg hx]
    | cons x bs =>
      have hrest : matching ranges (bs ++ b) = matching ranges bs :=
        ih fun r hr => hranges r (List.mem_cons_of_mem _ hr)
      simp only [List.cons_append, matching, hrest]

theorem Lead.take_append {lead : Lead} {x : UInt8} (hx : ¬ x < 0x80)
    (hlead : Lead.ofByte? x = some lead) (hb : ∀ y ∈ b.head?, isTrailing y = false) :
    lead.take (bs ++ b) = lead.take bs := by
  have hranges := ranges?_eq_some_of_lead hx hlead
  rw [take_eq_matching, take_eq_matching]
  exact matching_append (fun range hrange y hy => isTrailing_of_mem_ranges hranges hrange hy) hb

/-- The first piece of the left side is the first of all. -/
theorem first_append (hb : ∀ y ∈ b.head?, isTrailing y = false) (x : UInt8) (rest : Bytes) :
    first x (rest ++ b) = ((first x rest).1, (first x rest).2 ++ b) := by
  unfold first
  split
  · rfl
  · next hascii =>
    split
    · rfl
    · next lead hlead =>
      have hlength := (lead.take_prefix rest).length_le
      dsimp only
      rw [Lead.take_append hascii hlead hb, List.drop_append_of_le_length hlength]
      split
      · rfl
      · rfl

/-- Induction along the pieces of the left side, each of which ends within it. -/
theorem pieces_append (h : Separable a b) : pieces (a ++ b) = pieces a ++ pieces b := by
  rcases h with hwell | hb
  · obtain ⟨text, rfl⟩ := wellFormed_iff_exists_encode.mp hwell
    rw [pieces_encode_append, pieces_encode]
  · fun_induction pieces a with
    | case1 => rfl
    | case2 x rest ih => rw [List.cons_append, pieces_cons, first_append hb, ih, List.cons_append]

end ByteInspector.Utf8
