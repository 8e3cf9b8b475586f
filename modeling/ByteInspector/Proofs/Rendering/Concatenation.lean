import ByteInspector.Proofs.Rendering.Strict
import ByteInspector.Proofs.Utf8.Concatenation

/-! # Renderings side by side

Bytes that no sequence reaches across are shown one after the other, and the strict reading stops in
them where it stops in the first side, or else in the second. In particular an ASCII byte is shown
wherever it stands: no sequence holds one beside other bytes, and no malformed part holds one at all.
-/
namespace ByteInspector

open Utf8

variable {a b bs : Bytes}

theorem Policy.decodeText_append (policy : Policy) (h : Separable a b) :
    policy.decodeText (a ++ b) = policy.decodeText a ++ policy.decodeText b := by
  apply String.toList_inj.mp
  rw [String.toList_append, toList_decodeText, toList_decodeText, toList_decodeText,
    pieces_append h, List.map_append, List.flatMap_append]

namespace Utf8

theorem validate_append_of_error {n : Nat} (h : Separable a b) (ha : validate a = .error n) :
    validate (a ++ b) = .error n := by
  obtain ⟨cs, part, later, hpieces, hn⟩ := validate_eq_error_iff.mp ha
  refine validate_eq_error_iff.mpr ⟨cs, part, later ++ pieces b, ?_, hn⟩
  rw [pieces_append h, hpieces, List.append_assoc, List.cons_append]

/-- Behind a text the strict reading goes on as at the start, further on by the length of the text. -/
theorem validate_encode_append_of_error {text : String} {n : Nat} (hb : validate b = .error n) :
    validate (encode text ++ b) = .error ((encode text).length + n) := by
  obtain ⟨cs, part, later, hpieces, rfl⟩ := validate_eq_error_iff.mp hb
  refine validate_eq_error_iff.mpr ⟨text.toList ++ cs, part, later, ?_, ?_⟩
  · rw [pieces_encode_append, hpieces, List.map_append, List.append_assoc]
  · rw [length_encode, width_append]

theorem validate_append_cases (h : Separable a b) :
    (∃ n, validate a = .error n ∧ validate (a ++ b) = .error n) ∨
    (∃ s n, validate a = .ok s ∧ validate b = .error n ∧ validate (a ++ b) = .error (a.length + n)) ∨
    ∃ s t, validate a = .ok s ∧ validate b = .ok t ∧ validate (a ++ b) = .ok (s ++ t) := by
  cases ha : validate a with
  | error n => exact Or.inl ⟨n, rfl, validate_append_of_error h ha⟩
  | ok s =>
    obtain rfl := validate_eq_ok_iff.mp ha
    cases hb : validate b with
    | error n => exact Or.inr (Or.inl ⟨s, n, rfl, rfl, validate_encode_append_of_error hb⟩)
    | ok t =>
      obtain rfl := validate_eq_ok_iff.mp hb
      exact Or.inr (Or.inr ⟨s, t, rfl, rfl, validate_eq_ok_iff.mpr (encode_append s t)⟩)

theorem filter_ascii_eq_nil (h : ∀ x ∈ bs, ¬ x < 0x80) : bs.filter (· < 0x80) = [] := by
  apply List.filter_eq_nil_iff.mpr
  intro x hx
  simpa using h x hx

theorem exists_ascii_of_scalarValue {s : Bytes} (h : IsSequence s)
    (hlt : (scalarValue s).toNat < 0x80) : ∃ x ∈ s, x < 0x80 := by
  have hs := utf8EncodeChar_scalarValue h
  rw [utf8EncodeChar_of_lt hlt] at hs
  have hmem := List.mem_singleton_self (UInt8.ofNat (scalarValue s).toNat)
  rw [hs] at hmem
  exact ⟨_, hmem, UInt8.lt_iff_toNat_lt.mpr (by rwa [toNat_ofNat_byte (by omega)])⟩

/-- A sequence shows as ASCII what is ASCII in it. -/
theorem filter_ascii_scalarValue {s : Bytes} (h : IsSequence s) :
    [scalarValue s].filter (·.toNat < 0x80) =
      (s.filter (· < 0x80)).map fun x => Char.ofNat x.toNat := by
  -- either the sequence is its ASCII byte, or neither its bytes nor its character are ASCII
  by_cases hascii : ∃ x ∈ s, x < 0x80
  · obtain ⟨x, hx, hlt⟩ := hascii
    have hnat : x.toNat < 0x80 := UInt8.lt_iff_toNat_lt.mp hlt
    have hchar : (Char.ofNat x.toNat).toNat = x.toNat := toNat_ofNat (Or.inl (by omega))
    rw [h.eq_singleton hx hlt, scalarValue]
    simp [hlt, hchar, hnat]
  · have hnone := filter_ascii_eq_nil fun x hx hlt => hascii ⟨x, hx, hlt⟩
    have hwide : ¬ (scalarValue s).toNat < 0x80 := fun hlt => hascii (exists_ascii_of_scalarValue h hlt)
    rw [hnone, List.filter_cons_of_neg (by simpa using hwide), List.filter_nil, List.map_nil]

theorem Cut.filter_ascii_shown {segments : List Segment} (h : Cut bs segments) (policy : Policy) :
    (segments.flatMap policy.shown).filter (·.toNat < 0x80) =
      (bs.filter (· < 0x80)).map fun x => Char.ofNat x.toNat := by
  induction h with
  | nil => rfl
  | sequence hs _ ih =>
    rw [List.flatMap_cons, List.filter_append, List.filter_append, List.map_append, ih,
      Policy.shown, filter_ascii_scalarValue hs]
  | @malformed part rest more hmal _ ih =>
    have hbytes := filter_ascii_eq_nil fun x hx => hmal.not_ascii hx
    have hshown : (policy.shown (.malformed part)).filter (·.toNat < 0x80) = [] := by
      cases policy with
      | ignore => rfl
      | replace => rfl
    rw [List.flatMap_cons, List.filter_append, List.filter_append, hbytes, hshown, List.nil_append,
      List.nil_append, ih]

end Utf8

namespace Rendering

theorem validUpTo_ofBytes_append (policy : Policy) (h : Separable a b) :
    (ofBytes policy (a ++ b)).validUpTo =
      (ofBytes policy a).validUpTo.or ((ofBytes policy b).validUpTo.map (a.length + ·)) := by
  simp only [ofBytes]
  rcases validate_append_cases h with ⟨n, ha, hab⟩ | ⟨s, n, ha, hb, hab⟩ | ⟨s, t, ha, hb, hab⟩
  · rw [ha, hab, Option.some_or]
  · rw [ha, hb, hab, Option.none_or, Option.map_some]
  · rw [ha, hb, hab, Option.none_or, Option.map_none]

/-- Separable bytes are rendered side by side; and however bytes are cut, each ASCII byte among them is
shown once and in its place, and nothing else is shown as ASCII. -/
theorem ofBytes_append_of_separable (policy : Policy) :
    (∀ a b, Separable a b →
      (ofBytes policy (a ++ b)).text = (ofBytes policy a).text ++ (ofBytes policy b).text ∧
      (ofBytes policy (a ++ b)).validUpTo =
        (ofBytes policy a).validUpTo.or ((ofBytes policy b).validUpTo.map (a.length + ·))) ∧
    ∀ bs, (ofBytes policy bs).text.toList.filter (·.toNat < 0x80) =
        (bs.filter (· < 0x80)).map (fun x => Char.ofNat x.toNat) ∧
      ∀ segments part, Cut bs segments → .malformed part ∈ segments → ∀ x ∈ part, ¬ x < 0x80 := by
  refine ⟨fun a b h => ⟨policy.decodeText_append h, validUpTo_ofBytes_append policy h⟩,
    fun bs => ⟨?_, ?_⟩⟩
  · rw [ofBytes, Policy.toList_decodeText]
    exact (cut_pieces bs).filter_ascii_shown policy
  · intro segments part hcut hpart x hx
    obtain ⟨rest, hmal⟩ := hcut.isMalformedPart hpart
    exact hmal.not_ascii hx

/-- Three bytes of four and a letter: the sequence that is cut short is one malformed part. -/
theorem ofBytes_append_of_cut_short :
    Separable [0xF0, 0x9F, 0x98] [0x41] ∧
      (ofBytes .replace ([0xF0, 0x9F, 0x98] ++ [0x41])).text =
        (ofBytes .replace [0xF0, 0x9F, 0x98]).text ++ (ofBytes .replace [0x41]).text ∧
      (ofBytes .replace ([0xF0, 0x9F, 0x98] ++ [0x41])).validUpTo =
        (ofBytes .replace [0xF0, 0x9F, 0x98]).validUpTo.or
          ((ofBytes .replace [0x41]).validUpTo.map (3 + ·)) := by
  have h : Separable [0xF0, 0x9F, 0x98] [0x41] := by
    refine Or.inr fun x hx => ?_
    obtain rfl := Option.some.inj hx
    rfl
  exact ⟨h, (ofBytes_append_of_separable .replace).1 _ _ h⟩

end Rendering

end ByteInspector
