import ByteInspector.Proofs.Hex.Canonical
import ByteInspector.Proofs.Utf8.Segmentation

/-! # Texts with one canonical form

Blanks around the digits and the case of letters change nothing about what a text spells. The text and
its canonical form are read in step: a character and its small form have equally many bytes, the same
value as digits, and the same place behind the blanks. So texts with one canonical form spell the same
bytes, or have the same fault up to the case of its character and the blanks before it.
-/
namespace ByteInspector.Hex

def leading (text : String) : Nat := Utf8.width (text.toList.takeWhile isBlank)

def lowerByte (b : UInt8) : UInt8 := UInt8.ofNat (byteChar b).toLower.toNat

def PairFault.lowered : PairFault → PairFault
  | .oddLength => .oddLength
  | .notDigit shown index => .notDigit shown.toLower index
  | .wrongLength => .wrongLength

/-- The fault as the canonical form has it, of a text with so many bytes of blanks in front. -/
def Fault.canonical (leading : Nat) : Fault → Fault
  | .oddLength n => .oddLength n
  | .invalidCharacter c index => .invalidCharacter c.toLower (index - leading)
  | .invalidLength n => .invalidLength n

theorem toLower_of_le {c : Char} (h : 0x80 ≤ c.toNat) : c.toLower = c :=
  toLower_of_not_capital (Or.inr (by omega))

/-- What holds for ASCII by a table, and for characters that have no other case, holds for all. -/
theorem of_ascii_or_toLower_eq {P : Char → Char → Prop}
    (table : ∀ k : Fin 0x80, P (Char.ofNat k.val) (Char.ofNat k.val).toLower)
    (hself : ∀ c, 0x80 ≤ c.toNat → P c c) (c : Char) : P c c.toLower := by
  by_cases h : c.toNat < 0x80
  · have hc := table ⟨c.toNat, h⟩
    rwa [Char.ofNat_toNat] at hc
  · have hle : 0x80 ≤ c.toNat := by omega
    rw [toLower_of_le hle]
    exact hself c hle

theorem isBlank_toLower (c : Char) : isBlank c.toLower = isBlank c :=
  of_ascii_or_toLower_eq (P := fun c d => isBlank d = isBlank c) (by decide) (fun _ _ => rfl) c

theorem value?_toLower (c : Char) : value? c.toLower = value? c :=
  of_ascii_or_toLower_eq (P := fun c d => value? d = value? c) (by decide) (fun _ _ => rfl) c

theorem utf8Size_toLower (c : Char) : c.toLower.utf8Size = c.utf8Size :=
  of_ascii_or_toLower_eq (P := fun c d => d.utf8Size = c.utf8Size) (by decide) (fun _ _ => rfl) c

theorem lowerByte_of_le {b : UInt8} (h : ¬ b < 0x80) : lowerByte b = b := by
  have table : ∀ k : Fin 0x80, lowerByte (UInt8.ofNat (k.val + 0x80)) = UInt8.ofNat (k.val + 0x80) := by
    decide +kernel
  have hle : 0x80 ≤ b.toNat := UInt8.le_iff_toNat_le.mp (UInt8.not_lt.mp h)
  have hlt : b.toNat < 0x100 := b.toNat_lt
  have hb := table ⟨b.toNat - 0x80, by omega⟩
  rwa [Nat.sub_add_cancel hle, UInt8.ofNat_toNat] at hb

theorem byteChar_lowerByte (b : UInt8) : byteChar (lowerByte b) = (byteChar b).toLower := by
  have table : ∀ k : Fin 0x100, byteChar (lowerByte (UInt8.ofNat k.val)) =
      (byteChar (UInt8.ofNat k.val)).toLower := by
    decide +kernel
  have hb := table ⟨b.toNat, b.toNat_lt⟩
  rwa [UInt8.ofNat_toNat] at hb

/-- All bytes of a character beyond ASCII are beyond ASCII. -/
theorem not_lt_of_mem_utf8EncodeChar {c : Char} (hc : 0x80 ≤ c.toNat) {x : UInt8}
    (hx : x ∈ String.utf8EncodeChar c) : ¬ x < 0x80 := by
  intro hascii
  have hlt : x.toNat < 0x80 := UInt8.lt_iff_toNat_lt.mp hascii
  have hsingle := (Utf8.isSequence_utf8EncodeChar c).eq_singleton hx hascii
  obtain rfl := eq_byteChar_of_utf8EncodeChar hsingle hlt
  rw [toNat_byteChar] at hc
  omega

theorem utf8EncodeChar_toLower (c : Char) :
    String.utf8EncodeChar c.toLower = (String.utf8EncodeChar c).map lowerByte := by
  refine of_ascii_or_toLower_eq
    (P := fun c d => String.utf8EncodeChar d = (String.utf8EncodeChar c).map lowerByte) (by decide) ?_ c
  intro c hc
  rw [List.map_congr_left fun x hx => lowerByte_of_le (not_lt_of_mem_utf8EncodeChar hc hx), List.map_id']

theorem encode_map_toLower (cs : List Char) :
    Utf8.encode (String.ofList (cs.map Char.toLower)) =
      (Utf8.encode (String.ofList cs)).map lowerByte := by
  induction cs with
  | nil => simp
  | cons c cs ih =>
    rw [List.map_cons, Utf8.encode_ofList_cons, Utf8.encode_ofList_cons, List.map_append, ih,
      utf8EncodeChar_toLower]

theorem width_map_toLower (cs : List Char) : Utf8.width (cs.map Char.toLower) = Utf8.width cs := by
  induction cs with
  | nil => rfl
  | cons c cs ih => rw [List.map_cons, Utf8.width_cons, Utf8.width_cons, ih, utf8Size_toLower]

theorem value?_byteChar_lowerByte (b : UInt8) :
    value? (byteChar (lowerByte b)) = value? (byteChar b) := by
  rw [byteChar_lowerByte, value?_toLower]

/-- Small letters have the values of capital ones, and are shown in their place. -/
theorem decodePairs_map_lowerByte (index : Nat) (ds : Bytes) :
    decodePairs index (ds.map lowerByte) = (decodePairs index ds).mapError PairFault.lowered := by
  induction index, ds using decodePairs.induct with
  | case1 => rfl
  | case2 => rfl
  | case3 index x y ds hx =>
    simp only [List.map_cons, decodePairs, byteChar_lowerByte, value?_toLower, hx]
    rfl
  | case4 index x y ds high hy hx =>
    simp only [List.map_cons, decodePairs, byteChar_lowerByte, value?_toLower, hx, hy]
    rfl
  | case5 index x y ds high low hy hx ih =>
    have hx' := (value?_byteChar_lowerByte x).trans hx
    have hy' := (value?_byteChar_lowerByte y).trans hy
    rw [List.map_cons, List.map_cons, decodePairs_cons_cons hx' hy', decodePairs_cons_cons hx hy, ih]
    cases decodePairs (index + 2) ds <;> rfl

theorem decodeDigits_map_lowerByte (ds : Bytes) :
    decodeDigits (ds.map lowerByte) = (decodeDigits ds).mapError PairFault.lowered := by
  unfold decodeDigits
  rw [List.length_map, decodePairs_map_lowerByte]
  split <;> rfl

theorem characterAt?_map_toLower (offset : Nat) (cs : List Char) :
    characterAt? offset (cs.map Char.toLower) = (characterAt? offset cs).map Char.toLower := by
  induction cs generalizing offset with
  | nil => rfl
  | cons c cs ih =>
    rw [List.map_cons, characterAt?, characterAt?, utf8Size_toLower, ih]
    split
    · rfl
    · split <;> rfl

theorem located_lowered (body : List Char) (leading : Nat) (fault : PairFault) :
    fault.lowered.located (body.map Char.toLower) 0 = (fault.located body leading).canonical leading := by
  cases fault with
  | oddLength => simp only [PairFault.lowered, PairFault.located, Fault.canonical, width_map_toLower]
  | notDigit shown index =>
    simp only [PairFault.lowered, PairFault.located, Fault.canonical, characterAt?_map_toLower,
      Option.getD_map, Nat.zero_add, Nat.add_sub_cancel_left]
  | wrongLength => simp only [PairFault.lowered, PairFault.located, Fault.canonical, width_map_toLower]

theorem not_mem_blanks_toLower {c : Char} (h : c ∉ blanks) : c.toLower ∉ blanks := by
  rw [← isBlank_eq_false_iff] at h ⊢
  rw [isBlank_toLower, h]

variable {s t text : String}

theorem toList_canonical (text : String) :
    (canonical text).toList = (trimmed text.toList).map Char.toLower := String.toList_ofList

/-- No blanks are left around the canonical form. -/
theorem trimming_canonical (text : String) :
    Trimming (canonical text).toList [] (canonical text).toList [] := by
  have ht := trimming_trimmed text.toList
  refine ⟨by simp, by simp, by simp, ?_, ?_⟩
  · intro c hc
    rw [toList_canonical, List.head?_map] at hc
    obtain ⟨d, hd, rfl⟩ := Option.map_eq_some_iff.mp hc
    exact not_mem_blanks_toLower (ht.head_solid d hd)
  · intro c hc
    rw [toList_canonical, List.getLast?_map] at hc
    obtain ⟨d, hd, rfl⟩ := Option.map_eq_some_iff.mp hc
    exact not_mem_blanks_toLower (ht.last_solid d hd)

theorem leading_canonical (text : String) : leading (canonical text) = 0 := by
  have hhead := (trimming_canonical text).head_solid
  unfold leading
  cases hcs : (canonical text).toList with
  | nil => rfl
  | cons c cs =>
    have hc := isBlank_eq_false_iff.mpr (hhead c (by rw [hcs]; rfl))
    rw [List.takeWhile_cons_of_neg (by simp [hc]), Utf8.width_nil]

theorem decode_eq (text : String) :
    decode text = (decodeDigits (Utf8.encode (String.ofList (trimmed text.toList)))).mapError
      (PairFault.located (trimmed text.toList) (leading text)) := by
  rw [decode, width_sub_width_dropWhile, leading]

/-- The canonical form spells what the text spells, or has its fault in the canonical form. -/
theorem decode_canonical (text : String) :
    decode (canonical text) = (decode text).mapError (Fault.canonical (leading text)) := by
  rw [decode_eq (canonical text), ← (trimming_canonical text).body_eq, leading_canonical,
    toList_canonical, encode_map_toLower, decodeDigits_map_lowerByte, decode_eq text]
  cases decodeDigits (Utf8.encode (String.ofList (trimmed text.toList))) with
  | ok bs => rfl
  | error fault => exact congrArg Except.error (located_lowered _ _ fault)

/-- Faults of one kind: of the same length, or of the same character in either case, at the same place
behind the blanks. -/
inductive SameFault (s t : String) : Fault → Fault → Prop where
  | oddLength (n : Nat) : SameFault s t (.oddLength n) (.oddLength n)
  | invalidCharacter {c d : Char} {i j : Nat} : c.toLower = d.toLower →
      i + leading t = j + leading s → SameFault s t (.invalidCharacter c i) (.invalidCharacter d j)

/-- A fault is of one of two kinds, and no blank in front of the digits is at fault. -/
theorem cases_of_decode_eq_error {fault : Fault} (h : decode text = .error fault) :
    (∃ n, fault = .oddLength n) ∨
      ∃ c i, fault = .invalidCharacter c i ∧ leading text ≤ i := by
  rw [decode_eq] at h
  cases hdigits : decodeDigits (Utf8.encode (String.ofList (trimmed text.toList))) with
  | ok bs =>
    rw [hdigits] at h
    cases h
  | error pairFault =>
    rw [hdigits] at h
    obtain rfl := Except.error.inj h
    rcases decodeDigits_eq_error hdigits with ⟨-, rfl⟩ | ⟨-, front, x, back, -, -, -, rfl⟩
    · exact Or.inl ⟨_, rfl⟩
    · exact Or.inr ⟨_, _, rfl, Nat.le_add_right _ _⟩

theorem sameFault_of_canonical_eq {f g : Fault} (hf : decode s = .error f) (hg : decode t = .error g)
    (h : f.canonical (leading s) = g.canonical (leading t)) : SameFault s t f g := by
  rcases cases_of_decode_eq_error hf with ⟨n, rfl⟩ | ⟨c, i, rfl, hi⟩
  · rcases cases_of_decode_eq_error hg with ⟨m, rfl⟩ | ⟨d, j, rfl, -⟩
    · obtain rfl := Fault.oddLength.inj h
      exact .oddLength n
    · cases h
  · rcases cases_of_decode_eq_error hg with ⟨m, rfl⟩ | ⟨d, j, rfl, hj⟩
    · cases h
    · obtain ⟨hchar, hindex⟩ := Fault.invalidCharacter.inj h
      exact .invalidCharacter hchar (by omega)

/-- Texts with one canonical form spell the same bytes, or have faults of one kind. -/
theorem decode_of_canonical_eq (h : canonical s = canonical t) :
    (∃ bs, decode s = .ok bs ∧ decode t = .ok bs) ∨
      ∃ f g, decode s = .error f ∧ decode t = .error g ∧ SameFault s t f g := by
  have hboth : (decode s).mapError (Fault.canonical (leading s)) =
      (decode t).mapError (Fault.canonical (leading t)) := by
    rw [← decode_canonical, ← decode_canonical, h]
  cases hs : decode s with
  | ok bs =>
    cases ht : decode t with
    | ok cs =>
      rw [hs, ht] at hboth
      obtain rfl := Except.ok.inj hboth
      exact Or.inl ⟨bs, rfl, rfl⟩
    | error g =>
      rw [hs, ht] at hboth
      cases hboth
  | error f =>
    cases ht : decode t with
    | ok cs =>
      rw [hs, ht] at hboth
      cases hboth
    | error g =>
      rw [hs, ht] at hboth
      exact Or.inr ⟨f, g, rfl, rfl, sameFault_of_canonical_eq hs ht (Except.error.inj hboth)⟩

/-- One character in both cases, behind one blank and behind two. -/
example : decode " 4fG1" = .error (.invalidCharacter 'G' 3) ∧
    decode "\t\n4Fg1\r" = .error (.invalidCharacter 'g' 4) :=
  ⟨by rfl, by rfl⟩

end ByteInspector.Hex
