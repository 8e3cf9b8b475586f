import ByteInspector.Proofs.Rendering.Strict

/-! # Where the strict reading stops

The strict reading stops at the first malformed piece. Everything before it is a text, no longer front
of the bytes is one, and the permissive reading agrees with it up to there: it shows that text first,
and then what the policy puts in place of the malformed part.
-/
namespace ByteInspector

namespace Utf8

variable {bs : Bytes} {cs : List Char} {part : Bytes} {later : List Piece}

/-- The bytes in front of the first malformed piece, the piece, and the bytes behind it. -/
theorem bytes_eq_of_pieces (h : pieces bs = cs.map .scalar ++ .malformed part :: later) :
    bs = encode (String.ofList cs) ++ (part ++ later.flatMap Piece.bytes) := by
  calc
    bs = (pieces bs).flatMap Piece.bytes := (flatMap_bytes_pieces bs).symm
    _ = (cs.map Piece.scalar).flatMap Piece.bytes ++ (part ++ later.flatMap Piece.bytes) := by
      rw [h, List.flatMap_append, List.flatMap_cons, Piece.bytes]
    _ = _ := by
      rw [List.flatMap_map, encode, String.toList_ofList]
      rfl

theorem malformed_ne_nil (h : .malformed part ∈ pieces bs) : part ≠ [] := by
  have hmem : Piece.segment (.malformed part) ∈ (pieces bs).map Piece.segment :=
    List.mem_map_of_mem h
  have hlength := (cut_pieces bs).length_malformed hmem
  exact List.ne_nil_of_length_pos (by omega)

/-- A text at the front of the bytes ends before the first malformed piece. -/
theorem width_le_of_prefix (h : pieces bs = cs.map .scalar ++ .malformed part :: later) {text : String}
    (hfront : encode text <+: bs) : width text.toList ≤ width cs := by
  obtain ⟨rest, rfl⟩ := hfront
  rw [pieces_encode_append] at h
  generalize text.toList = ds at h ⊢
  -- both sides of `h` are cut into the same pieces, of which the malformed one is not in the text
  induction ds generalizing cs with
  | nil => exact Nat.zero_le _
  | cons d ds ih =>
    cases cs with
    | nil => simp at h
    | cons c cs =>
      obtain ⟨hhead, htail⟩ := List.cons.inj h
      cases hhead
      rw [width_cons, width_cons]
      exact Nat.add_le_add_left (ih htail) _

end Utf8

namespace Rendering

open Utf8

/-- How the two readings of bytes stand to one another where the strict one stops. -/
structure StopsAt (bs : Bytes) (n : Nat) : Prop where
  strict : validate bs = .error n
  /-- The offset does not depend on the policy. -/
  offset : ∀ policy, (ofBytes policy bs).validUpTo = some n
  lt_length : n < bs.length
  front : WellFormed (bs.take n)
  longest : ∀ k, WellFormed (bs.take k) → k ≤ n
  /-- The text opens with what the front spells, behind which the mark stands if one is put. -/
  shown : ∃ text, encode text = bs.take n ∧
    (∀ policy, text.toList <+: (ofBytes policy bs).text.toList) ∧
    text.toList ++ ['\uFFFD'] <+: (ofBytes .replace bs).text.toList

theorem stopsAt_of_validate_eq_error {bs : Bytes} {n : Nat} (h : validate bs = .error n) :
    StopsAt bs n := by
  obtain ⟨cs, part, later, hpieces, hn⟩ := validate_eq_error_iff.mp h
  have hpart : part ≠ [] := malformed_ne_nil (by rw [hpieces]; simp)
  have hbytes := bytes_eq_of_pieces hpieces
  have hlength : (encode (String.ofList cs)).length = n := by rw [length_encode_ofList, hn]
  have hfront : bs.take n = encode (String.ofList cs) := by
    rw [hbytes, List.take_left' hlength]
  have hlt : n < bs.length := by
    have hpos := List.length_pos_iff.mpr hpart
    rw [hbytes, List.length_append, List.length_append, hlength]
    omega
  have htext : ∀ policy, (ofBytes policy bs).text.toList =
      cs ++ (policy.shown (.malformed part) ++ (later.map Piece.segment).flatMap policy.shown) := by
    intro policy
    rw [ofBytes, Policy.toList_decodeText, hpieces, List.map_append, List.flatMap_append,
      Policy.flatMap_shown_scalar, List.map_cons, List.flatMap_cons, Piece.segment]
  refine ⟨h, fun policy => by rw [ofBytes, h], hlt, ?_, ?_, String.ofList cs, hfront.symm, ?_, ?_⟩
  · exact wellFormed_iff_exists_encode.mpr ⟨_, hfront.symm⟩
  · intro k hk
    obtain ⟨text, htext⟩ := wellFormed_iff_exists_encode.mp hk
    have hle := width_le_of_prefix hpieces (htext ▸ List.take_prefix k bs)
    rw [← length_encode, htext, List.length_take, ← hn] at hle
    omega
  · intro policy
    rw [String.toList_ofList, htext policy]
    exact List.prefix_append _ _
  · rw [String.toList_ofList, htext .replace, ← List.append_assoc]
    exact List.prefix_append _ _

theorem validUpTo_ofBytes_eq_some_iff {policy : Policy} {bs : Bytes} {n : Nat} :
    (ofBytes policy bs).validUpTo = some n ↔ validate bs = .error n := by
  rw [ofBytes]
  cases validate bs with
  | ok text => simp
  | error m => simp

/-- The strict reading and the permissive one agree on all bytes: on whether something is malformed,
and if so, on where the first malformed part stands. -/
theorem strict_agrees_with_permissive (policy : Policy) (bs : Bytes) :
    ((ofBytes policy bs).validUpTo = none ↔ WellFormed bs) ∧
      ((ofBytes policy bs).validUpTo = none ↔ encode (ofBytes policy bs).text = bs) ∧
      ((ofBytes policy bs).validUpTo = none ↔ validate bs = .ok (ofBytes policy bs).text) ∧
      ∀ n, (ofBytes policy bs).validUpTo = some n ↔ StopsAt bs n := by
  have hlossless := @validUpTo_ofBytes_eq_none_iff policy bs
  refine ⟨⟨?_, ?_⟩, hlossless, hlossless.trans validate_eq_ok_iff.symm, fun n => ⟨?_, ?_⟩⟩
  · intro h
    exact wellFormed_iff_exists_encode.mpr ⟨_, hlossless.mp h⟩
  · intro h
    obtain ⟨text, htext⟩ := wellFormed_iff_exists_encode.mp h
    rw [ofBytes, validate_eq_ok_iff.mpr htext]
  · intro h
    exact stopsAt_of_validate_eq_error (validUpTo_ofBytes_eq_some_iff.mp h)
  · intro h
    exact h.offset policy

end Rendering

end ByteInspector
