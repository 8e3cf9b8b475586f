import ByteInspector.Proofs.Rendering.Permissive

/-! # The strict reading

Strictly read, bytes are a text or they are none. They are the text exactly where they are its
encoding, and that is also when the permissive reading has lost nothing. A text therefore comes back
from its bytes whatever the policy, also one that was itself shown for malformed bytes.
-/
namespace ByteInspector

namespace Utf8

theorem readFrom_eq_ok_iff {offset : Nat} {ps : List Piece} {cs : List Char} :
    readFrom offset ps = .ok cs ↔ ps = cs.map .scalar := by
  induction ps generalizing offset cs with
  | nil => cases cs <;> simp [readFrom]
  | cons piece ps ih =>
    cases piece with
    | malformed part => cases cs <;> simp [readFrom]
    | scalar c =>
      have hrest : ∀ ds, readFrom (offset + c.utf8Size) ps = .ok ds ↔ ps = ds.map .scalar :=
        fun ds => ih
      rw [readFrom]
      constructor
      · intro h
        cases hread : readFrom (offset + c.utf8Size) ps with
        | error n =>
          rw [hread] at h
          cases h
        | ok ds =>
          rw [hread] at h
          cases h
          rw [(hrest ds).mp hread, List.map_cons]
      · intro h
        cases cs with
        | nil => cases h
        | cons d ds =>
          obtain ⟨hhead, htail⟩ := List.cons.inj h
          cases hhead
          rw [(hrest ds).mpr htail]
          rfl

theorem encode_eq_of_pieces {bs : Bytes} {cs : List Char} (h : pieces bs = cs.map .scalar) :
    encode (String.ofList cs) = bs := by
  rw [← flatMap_bytes_pieces bs, h, encode, String.toList_ofList, List.flatMap_map]
  rfl

/-- Bytes are a text exactly where they encode it. -/
theorem validate_eq_ok_iff {bs : Bytes} {text : String} :
    validate bs = .ok text ↔ encode text = bs := by
  constructor
  · intro h
    unfold validate at h
    cases hread : readFrom 0 (pieces bs) with
    | error n =>
      rw [hread] at h
      cases h
    | ok cs =>
      rw [hread] at h
      cases h
      exact encode_eq_of_pieces (readFrom_eq_ok_iff.mp hread)
  · rintro rfl
    have hread : readFrom 0 (pieces (encode text)) = .ok text.toList :=
      readFrom_eq_ok_iff.mpr (pieces_encode text)
    unfold validate
    rw [hread]
    exact congrArg Except.ok (String.ofList_toList (s := text))

theorem readFrom_eq_error_iff {offset n : Nat} {ps : List Piece} :
    readFrom offset ps = .error n ↔
      ∃ cs part later, ps = cs.map .scalar ++ .malformed part :: later ∧ n = offset + width cs := by
  induction ps generalizing offset with
  | nil => simp [readFrom]
  | cons piece ps ih =>
    cases piece with
    | malformed part =>
      constructor
      · intro h
        cases h
        exact ⟨[], part, ps, rfl, rfl⟩
      · rintro ⟨cs, part', later, hps, rfl⟩
        cases cs with
        | nil => rfl
        | cons c cs => simp at hps
    | scalar c =>
      have hmap : readFrom offset (.scalar c :: ps) = .error n ↔
          readFrom (offset + c.utf8Size) ps = .error n := by
        rw [readFrom]
        cases readFrom (offset + c.utf8Size) ps with
        | error m => simp [Except.map]
        | ok cs => simp [Except.map]
      rw [hmap, ih]
      constructor
      · rintro ⟨cs, part, later, rfl, rfl⟩
        exact ⟨c :: cs, part, later, rfl, by rw [width_cons]; omega⟩
      · rintro ⟨cs, part, later, hps, rfl⟩
        cases cs with
        | nil => simp at hps
        | cons d cs =>
          obtain ⟨hhead, htail⟩ := List.cons.inj hps
          cases hhead
          exact ⟨cs, part, later, htail, by rw [width_cons]; omega⟩

/-- The strict reading stops where the first malformed piece stands. -/
theorem validate_eq_error_iff {bs : Bytes} {n : Nat} :
    validate bs = .error n ↔
      ∃ cs part later, pieces bs = cs.map .scalar ++ .malformed part :: later ∧ n = width cs := by
  have hread := @readFrom_eq_error_iff 0 n (pieces bs)
  simp only [Nat.zero_add] at hread
  rw [← hread, validate]
  cases readFrom 0 (pieces bs) with
  | error m => simp [Except.map]
  | ok cs => simp [Except.map]

end Utf8

/-- No policy changes a text that is well formed. -/
theorem Policy.decodeText_encode (policy : Policy) (text : String) :
    policy.decodeText (Utf8.encode text) = text := by
  apply String.toList_inj.mp
  rw [toList_decodeText, Utf8.pieces_encode, flatMap_shown_scalar]

namespace Rendering

theorem validUpTo_ofBytes_eq_none_iff {policy : Policy} {bs : Bytes} :
    (ofBytes policy bs).validUpTo = none ↔ Utf8.encode (ofBytes policy bs).text = bs := by
  constructor
  · intro h
    cases hvalid : Utf8.validate bs with
    | error offset => simp [ofBytes, hvalid] at h
    | ok text =>
      obtain rfl := Utf8.validate_eq_ok_iff.mp hvalid
      exact congrArg Utf8.encode (policy.decodeText_encode text)
  · intro h
    have hvalid := Utf8.validate_eq_ok_iff.mpr h
    unfold ofBytes
    rw [hvalid]

theorem ofBytes_encode (policy : Policy) (text : String) :
    ofBytes policy (Utf8.encode text) = ⟨policy, text, none⟩ := by
  rw [ofBytes, policy.decodeText_encode, Utf8.validate_eq_ok_iff.mpr rfl]

/-- The bytes of a text are cut into one sequence for each character, and are shown as the text. Hence
what is shown for any bytes is shown again, with nothing lost, under every policy. -/
theorem ofBytes_encode_restores_text :
    (∀ text : String, Utf8.encode text = text.toUTF8.data.toList ∧
      Utf8.Cut (Utf8.encode text) (text.toList.map fun c => .sequence (String.utf8EncodeChar c))) ∧
    (∀ policy text, ofBytes policy (Utf8.encode text) = ⟨policy, text, none⟩) ∧
    ∀ policy other bs,
      (ofBytes other (Utf8.encode (ofBytes policy bs).text)).text = (ofBytes policy bs).text ∧
        (ofBytes other (Utf8.encode (ofBytes policy bs).text)).isLossless = true := by
  refine ⟨fun text => ⟨Utf8.encode_eq_toUTF8 text, Utf8.cut_encode text⟩, ofBytes_encode,
    fun policy other bs => ?_⟩
  rw [ofBytes_encode]
  exact ⟨rfl, Option.isNone_none⟩

end Rendering

end ByteInspector
