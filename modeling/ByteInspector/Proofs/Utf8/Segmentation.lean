import ByteInspector.Proofs.Utf8.Sequences

/-! # Bytes are cut in one way

The table leaves no choice: at the front of the bytes stands one sequence, or one malformed part, and
never both. The pieces that the bytes are read as are the segments of that cutting.
-/
namespace ByteInspector.Utf8

def Piece.segment : Piece → Segment
  | .scalar c => .sequence (String.utf8EncodeChar c)
  | .malformed part => .malformed part

theorem IsMalformedPart.length_le {part rest : Bytes} (h : IsMalformedPart part rest) :
    part.length ≤ 3 := by
  rcases h.start with hone | ⟨more, hmore, hseq⟩
  · omega
  · have hlength := length_le_of_isSequence hseq
    have hpos := List.length_pos_iff.mpr hmore
    rw [List.length_append] at hlength
    omega

/-- A malformed part holds no ASCII byte: at its head such a byte would be a sequence, and behind its
head all bytes are trailing bytes. -/
theorem IsMalformedPart.not_ascii {part rest : Bytes} (h : IsMalformedPart part rest) {x : UInt8}
    (hx : x ∈ part) : ¬ x < 0x80 := by
  cases part with
  | nil => cases hx
  | cons b tail =>
    rcases List.mem_cons.mp hx with rfl | hx
    · intro hascii
      exact h.noSequence [x] (List.prefix_append [x] (tail ++ rest)) (isSequence_singleton hascii)
    · rcases h.start with hone | hstart
      · rw [List.eq_nil_of_length_eq_zero (Nat.succ.inj hone)] at hx
        cases hx
      · obtain ⟨ranges, hranges, hfits, -⟩ := isProperStart_cons_iff.mp hstart
        exact not_lt_of_isTrailing (isTrailing_of_fits hranges hfits hx)

/-- Of two malformed parts at the front of the same bytes neither is longer. -/
theorem IsMalformedPart.length_le_of_append_eq {part rest part' rest' : Bytes}
    (h : IsMalformedPart part rest) (h' : IsMalformedPart part' rest')
    (heq : part ++ rest = part' ++ rest') : part'.length ≤ part.length := by
  have hpos := List.length_pos_iff.mpr h.nonempty
  rcases h'.start with hone | hstart
  · omega
  · have hprefix : part' <+: part ++ rest := heq ▸ List.prefix_append part' rest'
    exact Nat.le_of_not_lt fun hlt => h.longest part' hprefix hlt hstart

theorem Cut.flatMap_bytes {bs : Bytes} {segments : List Segment} (h : Cut bs segments) :
    segments.flatMap Segment.bytes = bs := by
  induction h with
  | nil => rfl
  | sequence _ _ ih => rw [List.flatMap_cons, ih, Segment.bytes]
  | malformed _ _ ih => rw [List.flatMap_cons, ih, Segment.bytes]

theorem Cut.isSequence {bs s : Bytes} {segments : List Segment} (h : Cut bs segments)
    (hs : .sequence s ∈ segments) : IsSequence s := by
  induction h with
  | nil => cases hs
  | sequence hseq _ ih =>
    rcases List.mem_cons.mp hs with hhead | htail
    · obtain rfl := Segment.sequence.inj hhead
      exact hseq
    · exact ih htail
  | malformed _ _ ih =>
    rcases List.mem_cons.mp hs with hhead | htail
    · cases hhead
    · exact ih htail

theorem Cut.isMalformedPart {bs part : Bytes} {segments : List Segment} (h : Cut bs segments)
    (hpart : .malformed part ∈ segments) : ∃ rest, IsMalformedPart part rest := by
  induction h with
  | nil => cases hpart
  | sequence _ _ ih =>
    rcases List.mem_cons.mp hpart with hhead | htail
    · cases hhead
    · exact ih htail
  | malformed hmal _ ih =>
    rcases List.mem_cons.mp hpart with hhead | htail
    · obtain rfl := Segment.malformed.inj hhead
      exact ⟨_, hmal⟩
    · exact ih htail

theorem Cut.length_malformed {bs part : Bytes} {segments : List Segment} (h : Cut bs segments)
    (hpart : .malformed part ∈ segments) : 1 ≤ part.length ∧ part.length ≤ 3 := by
  obtain ⟨rest, hmal⟩ := h.isMalformedPart hpart
  exact ⟨List.length_pos_iff.mpr hmal.nonempty, hmal.length_le⟩

/-- Induction on one cutting; at each front the table decides how the other one goes on. -/
theorem Cut.eq {bs : Bytes} {xs ys : List Segment} (hx : Cut bs xs) (hy : Cut bs ys) : xs = ys := by
  induction hx generalizing ys with
  | nil =>
    generalize hbs : ([] : Bytes) = bs at hy
    cases hy with
    | nil => rfl
    | sequence hs _ =>
      obtain ⟨rfl, -⟩ := List.append_eq_nil_iff.mp hbs.symm
      exact absurd hs not_isSequence_nil
    | malformed hmal _ => exact absurd (List.append_eq_nil_iff.mp hbs.symm).1 hmal.nonempty
  | @sequence s rest more hs _ ih =>
    generalize hbs : s ++ rest = bs at hy
    cases hy with
    | nil =>
      obtain ⟨rfl, -⟩ := List.append_eq_nil_iff.mp hbs
      exact absurd hs not_isSequence_nil
    | @sequence t rest' more' ht hrest' =>
      obtain rfl := hs.eq_of_prefix ht (List.prefix_append s rest) (hbs ▸ List.prefix_append t rest')
      obtain rfl := List.append_cancel_left hbs
      rw [ih hrest']
    | malformed hmal _ => exact absurd hs (hmal.noSequence s (hbs ▸ List.prefix_append s rest))
  | @malformed part rest more hmal _ ih =>
    generalize hbs : part ++ rest = bs at hy
    cases hy with
    | nil => exact absurd (List.append_eq_nil_iff.mp hbs).1 hmal.nonempty
    | @sequence t rest' more' ht _ =>
      exact absurd ht (hmal.noSequence t (hbs ▸ List.prefix_append t rest'))
    | @malformed part' rest' more' hmal' hrest' =>
      have hlength := Nat.le_antisymm (hmal'.length_le_of_append_eq hmal hbs.symm)
        (hmal.length_le_of_append_eq hmal' hbs)
      obtain ⟨rfl, rfl⟩ := List.append_inj hbs hlength
      rw [ih hrest']

theorem ranges?_eq_some_of_lead {b : UInt8} {lead : Lead} (hb : ¬ b < 0x80)
    (hlead : Lead.ofByte? b = some lead) : ranges? b = some lead.ranges := by
  rw [ranges?, if_neg hb, hlead, Option.map_some]

theorem length_ranges {b : UInt8} {lead : Lead} (hlead : Lead.ofByte? b = some lead) :
    lead.ranges.length = lead.trailing := by
  rcases Lead.ofByte?_cases hlead with ⟨-, -, rfl⟩ | ⟨-, -, rfl⟩ | ⟨-, -, rfl⟩ <;> rfl

/-- A byte that opens no row is a malformed part by itself. -/
theorem isMalformedPart_singleton {b : UInt8} (h : ranges? b = none) (rest : Bytes) :
    IsMalformedPart [b] rest where
  nonempty := List.cons_ne_nil _ _
  noSequence := by
    intro s hs hseq
    cases s with
    | nil => exact not_isSequence_nil hseq
    | cons c tail =>
      obtain ⟨rfl, -⟩ := List.cons_prefix_cons.mp hs
      obtain ⟨ranges, hranges, -⟩ := isSequence_cons_iff.mp hseq
      rw [h] at hranges
      cases hranges
  start := Or.inl rfl
  longest := by
    intro longer hlonger hlength hstart
    cases longer with
    | nil => cases hlength
    | cons c tail =>
      obtain ⟨rfl, -⟩ := List.cons_prefix_cons.mp hlonger
      obtain ⟨ranges, hranges, -⟩ := isProperStart_cons_iff.mp hstart
      rw [h] at hranges
      cases hranges

/-- Where the run behind a lead byte falls short, lead and run are a malformed part. -/
theorem isMalformedPart_matching {b : UInt8} {ranges : List ByteRange} {rest later : Bytes}
    (h : ranges? b = some ranges) (hlater : matching ranges rest ++ later = rest)
    (hshort : (matching ranges rest).length < ranges.length) :
    IsMalformedPart (b :: matching ranges rest) later where
  nonempty := List.cons_ne_nil _ _
  noSequence := by
    intro s hs hseq
    rw [List.cons_append, hlater] at hs
    cases s with
    | nil => exact not_isSequence_nil hseq
    | cons c tail =>
      obtain ⟨rfl, htail⟩ := List.cons_prefix_cons.mp hs
      obtain ⟨ranges', hranges', hfits⟩ := isSequence_cons_iff.mp hseq
      obtain rfl := Option.some.inj (h.symm.trans hranges')
      have hlength := length_of_fits hfits
      have hle := length_le_length_matching htail (by rwa [hlength, List.take_length])
      omega
  start := Or.inr (isProperStart_cons_iff.mpr ⟨ranges, h, fits_matching ranges rest, hshort⟩)
  longest := by
    intro longer hlonger hlength hstart
    rw [List.cons_append, hlater] at hlonger
    cases longer with
    | nil => cases hlength
    | cons c tail =>
      obtain ⟨rfl, htail⟩ := List.cons_prefix_cons.mp hlonger
      obtain ⟨ranges', hranges', hfits, -⟩ := isProperStart_cons_iff.mp hstart
      obtain rfl := Option.some.inj (h.symm.trans hranges')
      have hle := length_le_length_matching htail hfits
      simp only [List.length_cons] at hlength
      omega

theorem isSequence_of_first {b : UInt8} {rest later : Bytes} {c : Char}
    (h : first b rest = (.scalar c, later)) : IsSequence (String.utf8EncodeChar c) := by
  have hbytes := first_bytes b rest
  rw [h] at hbytes
  unfold first at h
  split at h
  · next hascii =>
    obtain ⟨-, rfl⟩ := Prod.mk.inj h
    have hone : String.utf8EncodeChar c = [b] := List.append_cancel_right hbytes
    rw [hone]
    exact isSequence_singleton hascii
  · next hascii =>
    split at h
    · cases h
    · next lead hlead =>
      dsimp only at h
      split at h
      · next hfull =>
        cases h
        rw [Lead.encode_scalar hlead hfull]
        have hfits := fits_matching lead.ranges rest
        rw [← Lead.take_eq_matching, hfull, ← length_ranges hlead, List.take_length] at hfits
        exact isSequence_cons_iff.mpr ⟨_, ranges?_eq_some_of_lead hascii hlead, hfits⟩
      · cases h

theorem isMalformedPart_of_first {b : UInt8} {rest later part : Bytes}
    (h : first b rest = (.malformed part, later)) : IsMalformedPart part later := by
  unfold first at h
  split at h
  · cases h
  · next hascii =>
    split at h
    · next hlead =>
      cases h
      exact isMalformedPart_singleton (by rw [ranges?, if_neg hascii, hlead, Option.map_none]) _
    · next lead hlead =>
      dsimp only at h
      split at h
      · cases h
      · next hpart =>
        cases h
        have hle := length_matching_le lead.ranges rest
        rw [Lead.take_eq_matching, ← length_ranges hlead] at hpart
        have hdrop := lead.take_append_drop rest
        rw [Lead.take_eq_matching] at hdrop ⊢
        exact isMalformedPart_matching (ranges?_eq_some_of_lead hascii hlead) hdrop (by omega)

/-- The pieces are the segments of the cutting. -/
theorem cut_pieces (bs : Bytes) : Cut bs ((pieces bs).map Piece.segment) := by
  fun_induction pieces bs with
  | case1 => exact .nil
  | case2 b rest ih =>
    have hbytes := first_bytes b rest
    cases hfirst : first b rest with
    | mk piece later =>
      rw [hfirst] at hbytes ih
      rw [← hbytes, List.map_cons]
      cases piece with
      | scalar c => exact .sequence (isSequence_of_first hfirst) ih
      | malformed part => exact .malformed (isMalformedPart_of_first hfirst) ih

/-- A text is cut into its characters: none of them is split, and no two are joined. -/
theorem cut_encode (text : String) :
    Cut (encode text) (text.toList.map fun c => .sequence (String.utf8EncodeChar c)) := by
  have h := cut_pieces (encode text)
  rwa [pieces_encode, List.map_map] at h

/-- The bits of a character that its bytes hold give the character back. -/
theorem scalarValue_utf8EncodeChar (c : Char) : scalarValue (String.utf8EncodeChar c) = c := by
  have hvalid : c.toNat.isValidChar := c.valid
  have hgap : c.toNat < 0xD800 ∨ 0xDFFF < c.toNat ∧ c.toNat < 0x110000 := hvalid
  have hc : c = Char.ofNat c.toNat := (Char.ofNat_toNat c).symm
  generalize c.toNat = v at hvalid hgap hc
  subst hc
  by_cases h1 : v < 0x80
  · rw [utf8EncodeChar_one h1, scalarValue, toNat_ofNat_byte (by omega)]
  by_cases h2 : v < 0x800
  · rw [utf8EncodeChar_two (by omega) h2]
    simp only [scalarValue]
    rw [toNat_ofNat_byte (by omega), toNat_ofNat_byte (by omega)]
    congr 1
    omega
  by_cases h3 : v < 0x10000
  · rw [utf8EncodeChar_three hvalid (by omega) h3]
    simp only [scalarValue]
    rw [toNat_ofNat_byte (by omega), toNat_ofNat_byte (by omega), toNat_ofNat_byte (by omega)]
    congr 1
    omega
  · rw [utf8EncodeChar_four (by omega) (by omega)]
    simp only [scalarValue]
    rw [toNat_ofNat_byte (by omega), toNat_ofNat_byte (by omega), toNat_ofNat_byte (by omega),
      toNat_ofNat_byte (by omega)]
    congr 1
    omega

/-- A sequence is the encoding of its scalar value: it is cut into itself, and read as one piece. -/
theorem utf8EncodeChar_scalarValue {s : Bytes} (h : IsSequence s) :
    String.utf8EncodeChar (scalarValue s) = s := by
  have hself : Cut s [.sequence s] := by simpa using Cut.sequence h Cut.nil
  obtain ⟨piece, -, hpiece⟩ := List.map_eq_singleton_iff.mp ((cut_pieces s).eq hself)
  cases piece with
  | scalar c =>
    obtain rfl := Segment.sequence.inj hpiece
    rw [scalarValue_utf8EncodeChar]
  | malformed part => cases hpiece

theorem isSequence_utf8EncodeChar (c : Char) : IsSequence (String.utf8EncodeChar c) := by
  have hpieces : pieces (String.utf8EncodeChar c) = [.scalar c] := by
    simpa using pieces_utf8EncodeChar_append c []
  have hcut := cut_pieces (String.utf8EncodeChar c)
  rw [hpieces] at hcut
  exact hcut.isSequence List.mem_cons_self

/-- Bytes are well formed exactly where they encode a text. -/
theorem wellFormed_iff_exists_encode {bs : Bytes} : WellFormed bs ↔ ∃ text, encode text = bs := by
  constructor
  · intro h
    induction h with
    | nil => exact ⟨"", encode_empty⟩
    | @append s rest hs _ ih =>
      obtain ⟨text, rfl⟩ := ih
      refine ⟨String.ofList (scalarValue s :: text.toList), ?_⟩
      rw [encode_ofList_cons, utf8EncodeChar_scalarValue hs, String.ofList_toList]
  · rintro ⟨text, rfl⟩
    rw [encode]
    generalize text.toList = cs
    induction cs with
    | nil => exact .nil
    | cons c cs ih =>
      rw [List.flatMap_cons]
      exact .append (isSequence_utf8EncodeChar c) ih

end ByteInspector.Utf8
