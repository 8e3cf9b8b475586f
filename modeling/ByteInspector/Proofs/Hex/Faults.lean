import ByteInspector.Proofs.Hex.Decoding
import ByteInspector.Utf8.Lemmas

/-! # Where a fault is

The bytes are read one by one, but a fault names a character. The first byte that is no digit always
opens one: every byte before it is a digit, and a digit is a character by itself.
-/
namespace ByteInspector.Hex

/-- A byte below 80 that opens a character is the whole of it. -/
theorem eq_byteChar_of_utf8EncodeChar {c : Char} {b : UInt8} {tail : Bytes}
    (h : String.utf8EncodeChar c = b :: tail) (hb : b.toNat < 0x80) : c = byteChar b := by
  have hpieces := Utf8.pieces_utf8EncodeChar_append c []
  have hascii : b < 0x80 := UInt8.lt_iff_toNat_lt.mpr hb
  rw [h, List.append_nil, Utf8.pieces_cons, Utf8.first, if_pos hascii] at hpieces
  exact (Utf8.Piece.scalar.inj (List.cons.inj hpieces).1).symm

theorem mem_of_mem_encode {cs : List Char} (hcs : ∀ c ∈ cs, c.toNat < 0x80) {x : UInt8}
    (hx : x ∈ Utf8.encode (String.ofList cs)) : byteChar x ∈ cs := by
  rw [← String.toList_ofList (l := cs)] at hcs
  obtain ⟨c, hc, hnat⟩ := Utf8.exists_char_of_mem_encode hcs hx
  rw [String.toList_ofList] at hc
  rwa [byteChar, hnat, Char.ofNat_toNat]

/-- Of an even number of bytes the first that is no digit is the fault. -/
theorem decodePairs_eq_error {index : Nat} {ds : Bytes} {fault : PairFault}
    (h : decodePairs index ds = .error fault) (heven : ds.length % 2 = 0) :
    ∃ front x back, ds = front ++ x :: back ∧ (∀ y ∈ front, IsHexDigit (byteChar y)) ∧
      ¬ IsHexDigit (byteChar x) ∧ fault = .notDigit (byteChar x) (index + front.length) := by
  induction index, ds using decodePairs.induct with
  | case1 => cases h
  | case2 => cases heven
  | case3 index x y ds hx =>
    refine ⟨[], x, y :: ds, rfl, by simp, not_isHexDigit_of_value? hx, ?_⟩
    simpa [decodePairs, hx] using h.symm
  | case4 index x y ds high hy hx =>
    refine ⟨[x], y, ds, rfl, ?_, not_isHexDigit_of_value? hy, ?_⟩
    · intro z hz
      obtain rfl := List.mem_singleton.mp hz
      exact isHexDigit_of_value? hx
    · simpa [decodePairs, hx, hy] using h.symm
  | case5 index x y ds high low hy hx ih =>
    rw [decodePairs_cons_cons hx hy] at h
    have hrest : decodePairs (index + 2) ds = .error fault := by
      cases hds : decodePairs (index + 2) ds with
      | ok bs => rw [hds] at h; cases h
      | error fault => rw [hds] at h; cases h; rfl
    have heven : ds.length % 2 = 0 := by
      simp only [List.length_cons] at heven
      omega
    obtain ⟨front, z, back, rfl, hfront, hz, rfl⟩ := ih hrest heven
    refine ⟨x :: y :: front, z, back, rfl, ?_, hz, ?_⟩
    · intro w hw
      rcases List.mem_cons.mp hw with rfl | hw
      · exact isHexDigit_of_value? hx
      rcases List.mem_cons.mp hw with rfl | hw
      · exact isHexDigit_of_value? hy
      · exact hfront w hw
    · rw [List.length_cons, List.length_cons]
      congr 1
      omega

/-- The first byte that is no digit opens a character, and digits stand before it. -/
theorem split_of_encode_eq {body : List Char} {front back : Bytes} {x : UInt8}
    (h : Utf8.encode (String.ofList body) = front ++ x :: back)
    (hfront : ∀ y ∈ front, IsHexDigit (byteChar y)) (hx : ¬ IsHexDigit (byteChar x)) :
    ∃ ds c rest, body = ds ++ c :: rest ∧ (∀ d ∈ ds, IsHexDigit d) ∧ ¬ IsHexDigit c ∧
      Utf8.width ds = front.length := by
  induction body generalizing front with
  | nil => simp at h
  | cons c body ih =>
    rw [Utf8.encode_ofList_cons] at h
    by_cases hc : IsHexDigit c
    · have hlt := toNat_lt_of_isHexDigit hc
      rw [Utf8.utf8EncodeChar_of_lt hlt] at h
      cases front with
      | nil =>
        have hhead := (List.cons.inj h).1
        rw [← hhead, byteChar_ofNat hlt] at hx
        exact absurd hc hx
      | cons y front =>
        have htail := (List.cons.inj h).2
        obtain ⟨ds, d, rest, rfl, hds, hd, hwidth⟩ :=
          ih htail fun z hz => hfront z (List.mem_cons_of_mem _ hz)
        have hsize : c.utf8Size = 1 := by
          rw [← String.length_utf8EncodeChar, Utf8.utf8EncodeChar_of_lt hlt, List.length_singleton]
        refine ⟨c :: ds, d, rest, rfl, ?_, hd, ?_⟩
        · intro e he
          rcases List.mem_cons.mp he with rfl | he
          · exact hc
          · exact hds e he
        · rw [Utf8.width_cons, hsize, hwidth, List.length_cons, Nat.add_comm]
    · refine ⟨[], c, body, rfl, by simp, hc, ?_⟩
      cases front with
      | nil => rfl
      | cons y front =>
        -- a digit in front would be the byte that opens the character, and so the whole of it
        exfalso
        have hy := hfront y List.mem_cons_self
        obtain ⟨b, tail, hchar⟩ := Utf8.exists_utf8EncodeChar_eq_cons c
        rw [hchar] at h
        obtain rfl := (List.cons.inj h).1
        rw [eq_byteChar_of_utf8EncodeChar hchar (toNat_lt_of_isHexDigit_byteChar hy)] at hc
        exact hc hy

theorem characterAt?_width (cs : List Char) (c : Char) (rest : List Char) :
    characterAt? (Utf8.width cs) (cs ++ c :: rest) = some c := by
  induction cs with
  | nil => rfl
  | cons d cs ih =>
    have hpos := d.utf8Size_pos
    rw [Utf8.width_cons, List.cons_append, characterAt?, if_neg (by omega), if_neg (by omega),
      Nat.add_sub_cancel_left, ih]

theorem decodeDigits_eq_error {ds : Bytes} {fault : PairFault}
    (h : decodeDigits ds = .error fault) :
    (ds.length % 2 = 1 ∧ fault = .oddLength) ∨
    (ds.length % 2 = 0 ∧ ∃ front x back, ds = front ++ x :: back ∧
      (∀ y ∈ front, IsHexDigit (byteChar y)) ∧ ¬ IsHexDigit (byteChar x) ∧
      fault = .notDigit (byteChar x) front.length) := by
  unfold decodeDigits at h
  split at h
  · next hodd =>
    cases h
    exact Or.inl ⟨hodd, rfl⟩
  · next hodd =>
    have heven : ds.length % 2 = 0 := by omega
    obtain ⟨front, x, back, hds, hfront, hx, rfl⟩ := decodePairs_eq_error h heven
    exact Or.inr ⟨heven, front, x, back, hds, hfront, hx, by rw [Nat.zero_add]⟩

/-- The character starts at the index, is no digit, and blanks of the front and digits are all that
stands before it. -/
structure LocatedAt (text : String) (lead : List Char) (character : Char) (index : Nat) : Prop where
  starts : ∃ before after,
    text.toList = before ++ character :: after ∧ Utf8.width before = index
  inside : index < (Utf8.encode text).length
  no_digit : ¬ IsHexDigit character
  before : ∀ i < index, ∀ x, (Utf8.encode text)[i]? = some x →
    (i < Utf8.width lead ∧ byteChar x ∈ blanks) ∨ IsHexDigit (byteChar x)

theorem locatedAt_of_split {text : String} {lead ds rest trail : List Char} {c : Char}
    (hsplit : text.toList = lead ++ (ds ++ c :: rest) ++ trail)
    (hlead : ∀ d ∈ lead, d ∈ blanks) (hds : ∀ d ∈ ds, IsHexDigit d) (hc : ¬ IsHexDigit c) :
    LocatedAt text lead c (Utf8.width lead + Utf8.width ds) where
  starts := by
    refine ⟨lead ++ ds, rest ++ trail, ?_, Utf8.width_append lead ds⟩
    rw [hsplit]
    simp
  inside := by
    have hpos := c.utf8Size_pos
    rw [Utf8.length_encode, hsplit]
    simp only [Utf8.width_append, Utf8.width_cons]
    omega
  no_digit := hc
  before := by
    intro i hi x hx
    have hbytes : Utf8.encode text = Utf8.encode (String.ofList lead) ++
        (Utf8.encode (String.ofList ds) ++ Utf8.encode (String.ofList (c :: rest ++ trail))) := by
      rw [← Utf8.encode_ofList_append, ← Utf8.encode_ofList_append, ← String.ofList_toList (s := text),
        hsplit]
      simp
    rw [hbytes] at hx
    have hleadlen := Utf8.length_encode_ofList lead
    have hdslen := Utf8.length_encode_ofList ds
    by_cases hfront : i < Utf8.width lead
    · rw [List.getElem?_append_left (by omega)] at hx
      have hascii : ∀ d ∈ lead, d.toNat < 0x80 := by
        intro d hd
        have table : blanks.all (fun d => d.toNat < 0x80) = true := by decide
        exact of_decide_eq_true (List.all_eq_true.mp table d (hlead d hd))
      exact Or.inl ⟨hfront, hlead _ (mem_of_mem_encode hascii (List.mem_of_getElem? hx))⟩
    · rw [List.getElem?_append_right (by omega), List.getElem?_append_left (by omega)] at hx
      have hascii : ∀ d ∈ ds, d.toNat < 0x80 := by
        intro d hd
        exact toNat_lt_of_isHexDigit (hds d hd)
      exact Or.inr (hds _ (mem_of_mem_encode hascii (List.mem_of_getElem? hx)))

theorem width_sub_width_dropWhile (cs : List Char) :
    Utf8.width cs - Utf8.width (cs.dropWhile isBlank) = Utf8.width (cs.takeWhile isBlank) := by
  have hsplit := List.takeWhile_append_dropWhile (p := isBlank) (l := cs)
  have hwidth := Utf8.width_append (cs.takeWhile isBlank) (cs.dropWhile isBlank)
  rw [hsplit] at hwidth
  omega

/-- What a fault says of a text whose blanks are split off. It never rests on the byte that was met
first, since a character starts at every place a byte can fail. -/
structure Locates (text : String) (lead body : List Char) (fault : Fault) : Prop where
  odd : ∀ n, fault = .oddLength n ↔
    n = (Utf8.encode (String.ofList body)).length ∧ (Utf8.encode (String.ofList body)).length % 2 = 1
  even : (Utf8.encode (String.ofList body)).length % 2 = 0 →
    ∃ character index, fault = .invalidCharacter character index ∧ LocatedAt text lead character index
  no_invalidLength : ∀ n, fault ≠ .invalidLength n
  no_fallback : ∀ shown index,
    decodeDigits (Utf8.encode (String.ofList body)) = .error (.notDigit shown index) →
      ∃ character, characterAt? index body = some character

theorem locates_of_odd {text : String} {lead body : List Char}
    (hodd : (Utf8.encode (String.ofList body)).length % 2 = 1)
    (hdigits : decodeDigits (Utf8.encode (String.ofList body)) = .error .oddLength) :
    Locates text lead body (.oddLength (Utf8.encode (String.ofList body)).length) where
  odd := by
    intro n
    simp [hodd, eq_comm]
  even := by
    intro heven
    omega
  no_invalidLength := by
    intro n hn
    cases hn
  no_fallback := by
    intro shown index hshown
    rw [hdigits] at hshown
    cases hshown

theorem locates_of_split {text : String} {lead ds rest : List Char} {c shown : Char}
    (heven : (Utf8.encode (String.ofList (ds ++ c :: rest))).length % 2 = 0)
    (hdigits : decodeDigits (Utf8.encode (String.ofList (ds ++ c :: rest))) =
      .error (.notDigit shown (Utf8.width ds)))
    (hat : LocatedAt text lead c (Utf8.width lead + Utf8.width ds)) :
    Locates text lead (ds ++ c :: rest) (.invalidCharacter c (Utf8.width lead + Utf8.width ds)) where
  odd := by
    intro n
    constructor
    · intro hn
      cases hn
    · rintro ⟨-, hodd⟩
      omega
  even := by
    intro _
    exact ⟨c, _, rfl, hat⟩
  no_invalidLength := by
    intro n hn
    cases hn
  no_fallback := by
    intro shown' index hshown
    rw [hdigits] at hshown
    cases hshown
    exact ⟨c, characterAt?_width ds c rest⟩

/-- A rejected text has an odd number of bytes between its blanks, or else a character there that is no
digit, and the first such character is reported whole, at its place in the text as it was given. -/
theorem decode_error_locates_fault {text : String} {fault : Fault} (h : decode text = .error fault) :
    ∃ lead body trail, Trimming text.toList lead body trail ∧ Locates text lead body fault := by
  have ht := trimming_trimmed text.toList
  refine ⟨_, _, _, ht, ?_⟩
  generalize htrail : ((text.toList.dropWhile isBlank).reverse.takeWhile isBlank).reverse = trail at ht
  rw [decode] at h
  generalize hbody : trimmed text.toList = body at h ht
  rw [width_sub_width_dropWhile] at h
  generalize hleading : text.toList.takeWhile isBlank = lead at h ht
  cases hdigits : decodeDigits (Utf8.encode (String.ofList body)) with
  | ok bs =>
    rw [hdigits] at h
    cases h
  | error pairFault =>
    rw [hdigits] at h
    have h : pairFault.located body (Utf8.width lead) = fault := Except.error.inj h
    rcases decodeDigits_eq_error hdigits with ⟨hodd, rfl⟩ | ⟨heven, front, x, back, hsplit, hfront, hx, rfl⟩
    · rw [PairFault.located, ← Utf8.length_encode_ofList] at h
      subst h
      exact locates_of_odd hodd hdigits
    · obtain ⟨ds, c, rest, rfl, hds, hc, hwidth⟩ := split_of_encode_eq hsplit hfront hx
      have hat := characterAt?_width ds c rest
      rw [← hwidth] at h hdigits
      rw [PairFault.located, hat, Option.getD_some] at h
      subst h
      exact locates_of_split heven hdigits (locatedAt_of_split ht.split ht.lead_blank hds hc)

theorem decode_error_locates_fault_of_accent :
    decode " \t41é" = .error (.invalidCharacter 'é' 4) ∧
      ∃ lead body trail, Trimming " \t41é".toList lead body trail ∧
        Locates " \t41é" lead body (.invalidCharacter 'é' 4) := by
  have h : decode " \t41é" = .error (.invalidCharacter 'é' 4) := by rfl
  exact ⟨h, decode_error_locates_fault h⟩

end ByteInspector.Hex
