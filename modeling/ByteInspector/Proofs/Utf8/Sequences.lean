import ByteInspector.Utf8.Lemmas
import ByteInspector.Utf8.WellFormed

/-! # Lead bytes and the table of sequences

Every byte opens at most one row of the table, and what that row asks of the bytes behind it is what
the lead byte asks of them. Hence no sequence continues another, and the run that a lead byte takes is
the longest one that can still become a sequence.
-/
namespace ByteInspector.Utf8

def Lead.ranges (lead : Lead) : List ByteRange :=
  (lead.low, lead.high) :: List.replicate (lead.trailing - 1) (0x80, 0xBF)

def ranges? (b : UInt8) : Option (List ByteRange) :=
  if b < 0x80 then some [] else (Lead.ofByte? b).map Lead.ranges

/-- The rest of a row whose first range has the byte. -/
def openedBy (b : UInt8) : List ByteRange → Option (List ByteRange)
  | [] => none
  | range :: ranges => if range.1 ≤ b ∧ b ≤ range.2 then some ranges else none

theorem filterMap_openedBy (b : UInt8) :
    sequenceRows.filterMap (openedBy b) = (ranges? b).toList := by
  have table : ∀ k : Fin 256, sequenceRows.filterMap (openedBy (UInt8.ofNat k.val)) =
      (ranges? (UInt8.ofNat k.val)).toList := by decide +kernel
  simpa using table ⟨b.toNat, b.toNat_lt⟩

theorem range_le {row : List ByteRange} (hrow : row ∈ sequenceRows) {range : ByteRange}
    (hrange : range ∈ row) : range.1 ≤ range.2 := by
  have table : sequenceRows.all (fun row => row.all fun range => range.1 ≤ range.2) = true := by decide
  have hall := List.all_eq_true.mp table row hrow
  exact of_decide_eq_true (List.all_eq_true.mp hall range hrange)

theorem ranges?_eq_some_iff {b : UInt8} {ranges : List ByteRange} :
    ranges? b = some ranges ↔ ∃ row ∈ sequenceRows, openedBy b row = some ranges := by
  rw [← Option.mem_toList, ← filterMap_openedBy, List.mem_filterMap]

theorem openedBy_eq_some_iff {b : UInt8} {row ranges : List ByteRange} :
    openedBy b row = some ranges ↔
      ∃ range, row = range :: ranges ∧ range.1 ≤ b ∧ b ≤ range.2 := by
  cases row with
  | nil => simp [openedBy]
  | cons range rest =>
    simp only [openedBy]
    split
    · next h =>
      constructor
      · intro hsome
        exact ⟨range, by rw [Option.some.inj hsome], h⟩
      · rintro ⟨r, hr, -⟩
        rw [(List.cons.inj hr).2]
    · next h =>
      constructor
      · intro hnone
        cases hnone
      · rintro ⟨r, hr, hb⟩
        cases hr
        exact absurd hb h

theorem fits_cons {range : ByteRange} {ranges : List ByteRange} {b : UInt8} {bs : Bytes} :
    fits (range :: ranges) (b :: bs) = true ↔
      (range.1 ≤ b ∧ b ≤ range.2) ∧ fits ranges bs = true := by
  simp [fits]

theorem length_of_fits {ranges : List ByteRange} {bs : Bytes} (h : fits ranges bs = true) :
    bs.length = ranges.length := by
  induction ranges generalizing bs with
  | nil =>
    cases bs with
    | nil => rfl
    | cons b bs => cases h
  | cons range ranges ih =>
    cases bs with
    | nil => cases h
    | cons b bs => rw [List.length_cons, List.length_cons, ih (fits_cons.mp h).2]

theorem exists_range_of_fits {ranges : List ByteRange} {bs : Bytes} (h : fits ranges bs = true)
    {x : UInt8} (hx : x ∈ bs) : ∃ range ∈ ranges, range.1 ≤ x ∧ x ≤ range.2 := by
  induction bs generalizing ranges with
  | nil => cases hx
  | cons b bs ih =>
    cases ranges with
    | nil => cases h
    | cons range ranges =>
      obtain ⟨hb, hrest⟩ := fits_cons.mp h
      rcases List.mem_cons.mp hx with rfl | hx
      · exact ⟨range, List.mem_cons_self, hb⟩
      · obtain ⟨r, hr, hmem⟩ := ih hrest hx
        exact ⟨r, List.mem_cons_of_mem _ hr, hmem⟩

theorem fits_append {ranges : List ByteRange} {xs ys : Bytes} :
    fits ranges (xs ++ ys) = true ↔
      fits (ranges.take xs.length) xs = true ∧ fits (ranges.drop xs.length) ys = true := by
  induction xs generalizing ranges with
  | nil => simp [fits]
  | cons x xs ih =>
    cases ranges with
    | nil => simp [fits]
    | cons range ranges =>
      rw [List.cons_append, fits_cons, ih]
      simp only [List.length_cons, List.take_succ_cons, List.drop_succ_cons, fits_cons, and_assoc]

/-- The lowest byte of each range. -/
theorem fits_map_fst {ranges : List ByteRange} (h : ∀ range ∈ ranges, range.1 ≤ range.2) :
    fits ranges (ranges.map Prod.fst) = true := by
  induction ranges with
  | nil => rfl
  | cons range ranges ih =>
    have hfirst := h range List.mem_cons_self
    have hrest := ih fun r hr => h r (List.mem_cons_of_mem _ hr)
    exact fits_cons.mpr ⟨⟨UInt8.le_refl _, hfirst⟩, hrest⟩

theorem not_isSequence_nil : ¬ IsSequence [] := by
  rintro ⟨row, hrow, hfits⟩
  have hlength := length_of_fits hfits
  have table : ∀ row ∈ sequenceRows, row.length ≠ 0 := by decide
  exact table row hrow hlength.symm

theorem isSequence_cons_iff {b : UInt8} {tail : Bytes} :
    IsSequence (b :: tail) ↔ ∃ ranges, ranges? b = some ranges ∧ fits ranges tail = true := by
  constructor
  · rintro ⟨row, hrow, hfits⟩
    cases row with
    | nil => cases hfits
    | cons range ranges =>
      obtain ⟨hb, htail⟩ := fits_cons.mp hfits
      have hopen : openedBy b (range :: ranges) = some ranges :=
        openedBy_eq_some_iff.mpr ⟨range, rfl, hb⟩
      exact ⟨ranges, ranges?_eq_some_iff.mpr ⟨_, hrow, hopen⟩, htail⟩
  · rintro ⟨ranges, hranges, htail⟩
    obtain ⟨row, hrow, hopen⟩ := ranges?_eq_some_iff.mp hranges
    obtain ⟨range, rfl, hb⟩ := openedBy_eq_some_iff.mp hopen
    exact ⟨_, hrow, fits_cons.mpr ⟨hb, htail⟩⟩

theorem isSequence_singleton {b : UInt8} (h : b < 0x80) : IsSequence [b] :=
  isSequence_cons_iff.mpr ⟨[], by rw [ranges?, if_pos h], rfl⟩

/-- All bytes of a row behind its first are trailing bytes. -/
theorem isTrailing_of_mem_ranges {b : UInt8} {ranges : List ByteRange} (hranges : ranges? b = some ranges)
    {range : ByteRange} (hrange : range ∈ ranges) {x : UInt8} (hx : range.1 ≤ x ∧ x ≤ range.2) :
    isTrailing x = true := by
  have table : sequenceRows.all (fun row => row.tail.all fun range =>
      0x80 ≤ range.1 && range.2 ≤ 0xBF) = true := by decide
  obtain ⟨row, hrow, hopen⟩ := ranges?_eq_some_iff.mp hranges
  obtain ⟨first, rfl, -⟩ := openedBy_eq_some_iff.mp hopen
  have hall := List.all_eq_true.mp (List.all_eq_true.mp table _ hrow) range hrange
  simp only [isTrailing, Bool.and_eq_true, decide_eq_true_eq] at hall ⊢
  exact ⟨UInt8.le_trans hall.1 hx.1, UInt8.le_trans hx.2 hall.2⟩

theorem isTrailing_of_fits {b : UInt8} {ranges : List ByteRange} {n : Nat} {bs : Bytes}
    (hranges : ranges? b = some ranges) (hfits : fits (ranges.take n) bs = true) {x : UInt8}
    (hx : x ∈ bs) : isTrailing x = true := by
  obtain ⟨range, hrange, hmem⟩ := exists_range_of_fits hfits hx
  exact isTrailing_of_mem_ranges hranges (List.mem_of_mem_take hrange) hmem

/-- A sequence that holds an ASCII byte is that byte. -/
theorem IsSequence.eq_singleton {s : Bytes} (h : IsSequence s) {x : UInt8} (hx : x ∈ s)
    (hascii : x < 0x80) : s = [x] := by
  cases s with
  | nil => cases hx
  | cons b tail =>
    obtain ⟨ranges, hranges, hfits⟩ := isSequence_cons_iff.mp h
    rcases List.mem_cons.mp hx with rfl | hx
    · rw [ranges?, if_pos hascii] at hranges
      obtain rfl := Option.some.inj hranges
      rw [List.eq_nil_of_length_eq_zero (length_of_fits hfits)]
    · rw [← List.take_length (l := ranges)] at hfits
      exact absurd hascii (not_lt_of_isTrailing (isTrailing_of_fits hranges hfits hx))

theorem length_le_of_isSequence {s : Bytes} (h : IsSequence s) : s.length ≤ 4 := by
  obtain ⟨row, hrow, hfits⟩ := h
  have table : ∀ row ∈ sequenceRows, row.length ≤ 4 := by decide
  rw [length_of_fits hfits]
  exact table row hrow

theorem isProperStart_cons_iff {b : UInt8} {tail : Bytes} :
    IsProperStart (b :: tail) ↔ ∃ ranges, ranges? b = some ranges ∧
      fits (ranges.take tail.length) tail = true ∧ tail.length < ranges.length := by
  constructor
  · rintro ⟨rest, hrest, hseq⟩
    rw [List.cons_append] at hseq
    obtain ⟨ranges, hranges, hfits⟩ := isSequence_cons_iff.mp hseq
    have hlength := length_of_fits hfits
    have hpos := List.length_pos_iff.mpr hrest
    rw [List.length_append] at hlength
    exact ⟨ranges, hranges, (fits_append.mp hfits).1, by omega⟩
  · rintro ⟨ranges, hranges, hfits, hlength⟩
    obtain ⟨row, hrow, hopen⟩ := ranges?_eq_some_iff.mp hranges
    obtain ⟨range, rfl, -⟩ := openedBy_eq_some_iff.mp hopen
    have hle : ∀ r ∈ ranges.drop tail.length, r.1 ≤ r.2 := fun r hr =>
      range_le hrow (List.mem_cons_of_mem _ (List.mem_of_mem_drop hr))
    refine ⟨(ranges.drop tail.length).map Prod.fst, ?_, ?_⟩
    · intro hnil
      have := List.drop_eq_nil_iff.mp (List.map_eq_nil_iff.mp hnil)
      omega
    · exact isSequence_cons_iff.mpr ⟨ranges, hranges, fits_append.mpr ⟨hfits, fits_map_fst hle⟩⟩

/-- Of two sequences at the front of the same bytes neither continues the other. -/
theorem IsSequence.eq_of_prefix {s t bs : Bytes} (hs : IsSequence s) (ht : IsSequence t)
    (hsb : s <+: bs) (htb : t <+: bs) : s = t := by
  cases s with
  | nil => exact absurd hs not_isSequence_nil
  | cons b s =>
    cases t with
    | nil => exact absurd ht not_isSequence_nil
    | cons c t =>
      cases bs with
      | nil => exact absurd (List.prefix_nil.mp hsb) (List.cons_ne_nil _ _)
      | cons d bs =>
        obtain ⟨rfl, hs'⟩ := List.cons_prefix_cons.mp hsb
        obtain ⟨rfl, ht'⟩ := List.cons_prefix_cons.mp htb
        obtain ⟨ranges, hranges, hfits⟩ := isSequence_cons_iff.mp hs
        obtain ⟨ranges', hranges', hfits'⟩ := isSequence_cons_iff.mp ht
        obtain rfl := Option.some.inj (hranges.symm.trans hranges')
        have hlength := (length_of_fits hfits).trans (length_of_fits hfits').symm
        rw [(List.prefix_of_prefix_length_le hs' ht' (Nat.le_of_eq hlength)).eq_of_length hlength]

/-- The longest run at the front whose bytes lie in the ranges. -/
def matching : List ByteRange → Bytes → Bytes
  | range :: ranges, b :: bs =>
    if range.1 ≤ b ∧ b ≤ range.2 then b :: matching ranges bs else []
  | [], _ => []
  | _ :: _, [] => []

theorem fits_matching (ranges : List ByteRange) (bs : Bytes) :
    fits (ranges.take (matching ranges bs).length) (matching ranges bs) = true := by
  induction ranges generalizing bs with
  | nil => rfl
  | cons range ranges ih =>
    cases bs with
    | nil => rfl
    | cons b bs =>
      simp only [matching]
      split
      · next h => exact fits_cons.mpr ⟨h, ih bs⟩
      · rfl

theorem length_matching_le (ranges : List ByteRange) (bs : Bytes) :
    (matching ranges bs).length ≤ ranges.length := by
  have h := length_of_fits (fits_matching ranges bs)
  rw [List.length_take] at h
  omega

/-- No longer run will do. -/
theorem length_le_length_matching {ranges : List ByteRange} {xs bs : Bytes} (hxs : xs <+: bs)
    (hfits : fits (ranges.take xs.length) xs = true) :
    xs.length ≤ (matching ranges bs).length := by
  induction ranges generalizing xs bs with
  | nil =>
    have h := length_of_fits hfits
    simp at h
    simp [h]
  | cons range ranges ih =>
    cases xs with
    | nil => simp
    | cons x xs =>
      cases bs with
      | nil => exact absurd (List.prefix_nil.mp hxs) (List.cons_ne_nil _ _)
      | cons b bs =>
        obtain ⟨rfl, hrest⟩ := List.cons_prefix_cons.mp hxs
        obtain ⟨hx, hfits⟩ := fits_cons.mp hfits
        simp only [matching, if_pos hx, List.length_cons]
        exact Nat.succ_le_succ (ih hrest hfits)

theorem takeWhile_isTrailing_take (n : Nat) (bs : Bytes) :
    (bs.take n).takeWhile isTrailing = matching (List.replicate n (0x80, 0xBF)) bs := by
  induction n generalizing bs with
  | zero => rfl
  | succ n ih =>
    cases bs with
    | nil => rfl
    | cons b bs =>
      simp only [List.take_succ_cons, List.replicate_succ, matching, List.takeWhile_cons, isTrailing,
        Bool.and_eq_true, decide_eq_true_eq]
      split
      · exact congrArg _ (ih bs)
      · rfl

theorem Lead.take_eq_matching (lead : Lead) (bs : Bytes) :
    lead.take bs = matching lead.ranges bs := by
  cases bs with
  | nil => rfl
  | cons b bs => simp only [Lead.take, Lead.ranges, matching, takeWhile_isTrailing_take]

end ByteInspector.Utf8
