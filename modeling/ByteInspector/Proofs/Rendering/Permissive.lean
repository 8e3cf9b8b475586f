import ByteInspector.Proofs.Utf8.Segmentation
import ByteInspector.Rendering

/-! # The permissive reading

A rendering takes its text chunk by chunk. The chunks only regroup the pieces, so that the text is what
the one cutting of the bytes says: each sequence its scalar value, each malformed part what the policy
puts in its place.
-/
namespace ByteInspector

namespace Utf8

def Chunk.pieces (chunk : Chunk) : List Piece :=
  chunk.valid.map .scalar ++ if chunk.invalid = [] then [] else [.malformed chunk.invalid]

theorem pieces_firstChunk (bs : Bytes) :
    (firstChunk bs).1.pieces ++ pieces (firstChunk bs).2 = pieces bs := by
  fun_induction firstChunk bs with
  | case1 => rfl
  | case2 b rest c later hfirst next ih =>
    rw [pieces_cons, hfirst]
    exact congrArg (Piece.scalar c :: ·) ih
  | case3 b rest part later hfirst =>
    have hpart := (isMalformedPart_of_first hfirst).nonempty
    rw [pieces_cons, hfirst, Chunk.pieces, if_neg hpart]
    rfl

/-- The chunks regroup the pieces. -/
theorem flatMap_pieces_chunks (bs : Bytes) : (chunks bs).flatMap Chunk.pieces = pieces bs := by
  fun_induction chunks bs with
  | case1 => rw [pieces_nil, List.flatMap_nil]
  | case2 b rest ih => rw [List.flatMap_cons, ih, pieces_firstChunk]

end Utf8

namespace Policy

def shown (policy : Policy) : Utf8.Segment → List Char
  | .sequence s => [Utf8.scalarValue s]
  | .malformed _ =>
    match policy with
    | .ignore => []
    | .replace => ['\uFFFD']

theorem flatMap_shown_scalar (policy : Policy) (cs : List Char) :
    ((cs.map Utf8.Piece.scalar).map Utf8.Piece.segment).flatMap policy.shown = cs := by
  induction cs with
  | nil => rfl
  | cons c cs ih =>
    simp only [List.map_cons, List.flatMap_cons, ih, Utf8.Piece.segment, shown,
      Utf8.scalarValue_utf8EncodeChar, List.singleton_append]

/-- One turn of the loop shows the pieces of its chunk. -/
theorem toList_append_chunk (policy : Policy) (text : String) (chunk : Utf8.Chunk) :
    (policy.append text chunk).toList =
      text.toList ++ (chunk.pieces.map Utf8.Piece.segment).flatMap policy.shown := by
  unfold append Utf8.Chunk.pieces
  rw [List.map_append, List.flatMap_append, flatMap_shown_scalar]
  by_cases hinvalid : chunk.invalid = []
  · simp [hinvalid]
  · cases policy with
    | ignore => simp [hinvalid, Utf8.Piece.segment, shown]
    | replace => simp [hinvalid, Utf8.Piece.segment, shown]

theorem toList_foldl_append (policy : Policy) (text : String) (chunks : List Utf8.Chunk) :
    (chunks.foldl policy.append text).toList =
      text.toList ++
        ((chunks.flatMap Utf8.Chunk.pieces).map Utf8.Piece.segment).flatMap policy.shown := by
  induction chunks generalizing text with
  | nil => simp
  | cons chunk rest ih =>
    rw [List.foldl_cons, ih, toList_append_chunk, List.flatMap_cons, List.map_append,
      List.flatMap_append, List.append_assoc]

/-- The whole loop shows the pieces of the bytes. -/
theorem toList_decodeText (policy : Policy) (bs : Bytes) :
    (policy.decodeText bs).toList =
      ((Utf8.pieces bs).map Utf8.Piece.segment).flatMap policy.shown := by
  unfold decodeText
  rw [toList_foldl_append, Utf8.flatMap_pieces_chunks]
  rfl

end Policy

namespace Rendering

/-- The bytes are cut in exactly one way, nothing is lost or counted twice, and the text shows the
segments one by one. -/
theorem text_ofBytes_eq_shown_segments (policy : Policy) (bs : Bytes) :
    ∃ segments : List Utf8.Segment,
      Utf8.Cut bs segments ∧ (∀ other, Utf8.Cut bs other → other = segments) ∧
      segments.flatMap Utf8.Segment.bytes = bs ∧
      (∀ s, .sequence s ∈ segments → String.utf8EncodeChar (Utf8.scalarValue s) = s) ∧
      (∀ part, .malformed part ∈ segments → 1 ≤ part.length ∧ part.length ≤ 3) ∧
      (ofBytes policy bs).text = String.ofList (segments.flatMap policy.shown) := by
  have hcut := Utf8.cut_pieces bs
  refine ⟨_, hcut, fun other hother => hother.eq hcut, hcut.flatMap_bytes, ?_, ?_, ?_⟩
  · intro s hs
    exact Utf8.utf8EncodeChar_scalarValue (hcut.isSequence hs)
  · intro part hpart
    exact hcut.length_malformed hpart
  · rw [← Policy.toList_decodeText, String.ofList_toList]
    rfl

end Rendering

end ByteInspector
