import ByteInspector.Utf8.Encoding

/-! # Texts that may be malformed

Arguments and environment variables reach a program as bytes. They are kept as pieces, so that
scanning for a character never cuts a sequence in two, and only a value that is used has to be text.
-/
namespace ByteInspector

abbrev RawText := List Utf8.Piece

namespace RawText

def ofString (text : String) : RawText := text.toList.map Utf8.Piece.scalar

def ofBytes (bs : Bytes) : RawText := Utf8.pieces bs

def text? (raw : RawText) : Option String := (raw.mapM Utf8.Piece.char?).map String.ofList

def lossy (raw : RawText) : String :=
  String.ofList (raw.map fun piece => piece.char?.getD (Char.ofNat 0xFFFD))

theorem mapM_char?_map_scalar (cs : List Char) :
    (cs.map Utf8.Piece.scalar).mapM Utf8.Piece.char? = some cs := by
  induction cs with
  | nil => rfl
  | cons c rest ih => simp [List.mapM_cons, Utf8.Piece.char?, ih]

@[simp] theorem text?_ofString (text : String) : text? (ofString text) = some text := by
  rw [text?, ofString, mapM_char?_map_scalar]
  simp

theorem eq_map_scalar_of_mapM {ps : List Utf8.Piece} {cs : List Char}
    (h : ps.mapM Utf8.Piece.char? = some cs) : ps = cs.map Utf8.Piece.scalar := by
  induction ps generalizing cs with
  | nil =>
    cases h
    rfl
  | cons piece ps ih =>
    rw [List.mapM_cons] at h
    obtain ⟨c, hc, h⟩ := Option.bind_eq_some_iff.mp h
    obtain ⟨ds, hds, h⟩ := Option.bind_eq_some_iff.mp h
    cases h
    cases piece with
    | malformed part => cases hc
    | scalar d =>
      cases hc
      rw [ih hds, List.map_cons]

theorem text?_eq_some_iff {raw : RawText} {text : String} :
    raw.text? = some text ↔ raw = ofString text := by
  constructor
  · intro h
    obtain ⟨cs, hcs, rfl⟩ := Option.map_eq_some_iff.mp h
    rw [ofString, String.toList_ofList, eq_map_scalar_of_mapM hcs]
  · rintro rfl
    exact text?_ofString text

@[simp] theorem lossy_ofString (text : String) : lossy (ofString text) = text := by
  simp [lossy, ofString, Function.comp_def, Utf8.Piece.char?]

end RawText

end ByteInspector
