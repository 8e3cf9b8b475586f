import ByteInspector.Literal
import ByteInspector.Proofs.Hex.RoundTrip

/-! # Character literals are read back

A literal has one character between its quotes, or an escape of two, or a code point in braces. The reader
tells them apart by what stands behind the first quote, since a backslash never stands for itself. No literal
holds a control character, whatever character it is of.
-/
namespace ByteInspector

namespace Unicode

def IsControl (c : Char) : Prop := c.toNat ≤ 0x1F ∨ 0x7F ≤ c.toNat ∧ c.toNat ≤ 0x9F

instance (c : Char) : Decidable (IsControl c) := inferInstanceAs (Decidable (_ ∨ _))

def ControlFree (cs : List Char) : Prop := ∀ c ∈ cs, ¬ IsControl c

instance (cs : List Char) : Decidable (ControlFree cs) := List.decidableBAll _ cs

theorem ControlFree.append {cs ds : List Char} (hcs : ControlFree cs) (hds : ControlFree ds) :
    ControlFree (cs ++ ds) := by
  intro c hc
  rcases List.mem_append.mp hc with hc | hc
  · exact hcs c hc
  · exact hds c hc

theorem not_isControl_of_isPrintable {c : Char} (h : isPrintable c = true) : ¬ IsControl c := by
  have hfirst : ∃ rest, unprintable = 0x0 :: 0x20 :: 0x7F :: 0xA1 :: rest := ⟨_, rfl⟩
  obtain ⟨rest, hrest⟩ := hfirst
  rw [isPrintable, hrest, Bool.not_eq_true'] at h
  rintro (hlow | ⟨hlow, hhigh⟩)
  · rw [within_of_mem_first _ (Nat.zero_le _) (by omega)] at h
    cases h
  · rw [within_of_le _ (by decide) (by omega), within_of_mem_first _ hlow (by omega)] at h
    cases h

end Unicode

namespace Literal

def number? (base : Nat) (ds : List Char) : Option Nat :=
  ds.foldlM (fun n d => (Hex.value? d).map (base * n + ·)) 0

variable {base n : Nat} {c d : Char}

theorem number?_toDigits (hbase : 1 < base) (hle : base ≤ 16) (n : Nat) :
    number? base (Nat.toDigits base n) = some n := by
  induction n using Nat.strongRecOn with
  | _ n ih =>
    by_cases hn : n < base
    · rw [Nat.toDigits_of_lt_base hn, number?, List.foldlM_cons, Hex.value?_digitChar (by omega)]
      simp
    · have hquotient := ih (n / base) (Nat.div_lt_self (by omega) hbase)
      have hdigit : n % base < 16 := Nat.lt_of_lt_of_le (Nat.mod_lt n (by omega)) hle
      rw [number?] at hquotient ⊢
      rw [Nat.toDigits_of_base_le hbase (by omega), List.foldlM_append, hquotient]
      simp [Hex.value?_digitChar hdigit, Nat.div_add_mod]

theorem exists_digitChar_of_mem_toDigits (hbase : 1 < base) (h : d ∈ Nat.toDigits base n) :
    ∃ k < base, d = Nat.digitChar k := by
  induction n using Nat.strongRecOn with
  | _ n ih =>
    by_cases hn : n < base
    · rw [Nat.toDigits_of_lt_base hn] at h
      exact ⟨n, hn, List.mem_singleton.mp h⟩
    · rw [Nat.toDigits_of_base_le hbase (by omega)] at h
      rcases List.mem_append.mp h with h | h
      · exact ih (n / base) (Nat.div_lt_self (by omega) hbase) h
      · exact ⟨n % base, Nat.mod_lt n (by omega), List.mem_singleton.mp h⟩

theorem isHexDigit_of_mem_toDigits (hbase : 1 < base) (hle : base ≤ 16)
    (h : d ∈ Nat.toDigits base n) : Hex.IsHexDigit d := by
  obtain ⟨k, hk, rfl⟩ := exists_digitChar_of_mem_toDigits hbase h
  exact Hex.isHexDigit_digitChar (by omega)

/-- The letters of the escapes by name, each with the character that it stands for. -/
def namedEscapes : List (Char × Char) :=
  [('0', Char.ofNat 0), ('t', '\t'), ('n', '\n'), ('r', '\r'), ('\\', '\\'), ('\'', '\'')]

def readCodePoint (cs : List Char) : Option (Char × List Char) :=
  match number? 16 (cs.takeWhile (· ≠ '}')), cs.dropWhile (· ≠ '}') with
  | some n, '}' :: '\'' :: rest => if n.isValidChar then some (Char.ofNat n, rest) else none
  | _, _ => none

def readCharacter : List Char → Option (Char × List Char)
  | '\'' :: '\\' :: 'u' :: '{' :: rest => readCodePoint rest
  | '\'' :: '\\' :: x :: '\'' :: rest => (namedEscapes.lookup x).map (·, rest)
  | '\'' :: c :: '\'' :: rest => if c = '\\' then none else some (c, rest)
  | _ => none

theorem readCodePoint_toDigits (c : Char) (rest : List Char) :
    readCodePoint (Nat.toDigits 16 c.toNat ++ '}' :: '\'' :: rest) = some (c, rest) := by
  have hdigits : ∀ d ∈ Nat.toDigits 16 c.toNat, decide (d ≠ '}') = true := by
    intro d hd
    apply decide_eq_true
    rintro rfl
    exact absurd (isHexDigit_of_mem_toDigits (by decide) (by decide) hd) (by decide)
  have hvalid : c.toNat.isValidChar := c.valid
  unfold readCodePoint
  rw [List.takeWhile_append_of_pos hdigits, List.dropWhile_append_of_pos hdigits,
    List.takeWhile_cons_of_neg (by simp), List.dropWhile_cons_of_neg (by simp), List.append_nil,
    number?_toDigits (by decide) (by decide)]
  simp only [if_pos hvalid, Char.ofNat_toNat]

theorem of_mem_namedEscapes {x : Char} (h : (x, c) ∈ namedEscapes) :
    namedEscapes.lookup x = some c ∧ escapeCharacter c = ['\\', x] ∧ ¬ Unicode.IsControl x := by
  have table : namedEscapes.all (fun named => decide (namedEscapes.lookup named.1 = some named.2 ∧
      escapeCharacter named.2 = ['\\', named.1] ∧ ¬ Unicode.IsControl named.1)) = true := by
    decide
  exact of_decide_eq_true (List.all_eq_true.mp table (x, c) h)

/-- The ways in which a character is written: by name, as itself, by its code point. -/
theorem escapeCharacter_cases (c : Char) :
    (∃ x, (x, c) ∈ namedEscapes) ∨
    (c ≠ '\\' ∧ isVisible c = true ∧ escapeCharacter c = [c]) ∨
    escapeCharacter c = codePoint c := by
  by_cases hnamed : c ∈ namedEscapes.map Prod.snd
  · obtain ⟨⟨x, _⟩, hmem, rfl⟩ := List.mem_map.mp hnamed
    exact Or.inl ⟨x, hmem⟩
  · simp only [namedEscapes, List.map_cons, List.map_nil, List.mem_cons, List.not_mem_nil, or_false,
      not_or] at hnamed
    obtain ⟨hnull, htab, hfeed, hreturn, hslash, hquote⟩ := hnamed
    rw [escapeCharacter, if_neg hnull, if_neg htab, if_neg hfeed, if_neg hreturn, if_neg hslash,
      if_neg hquote]
    by_cases hvisible : isVisible c = true
    · rw [if_pos hvisible]
      exact Or.inr (Or.inl ⟨hslash, hvisible, rfl⟩)
    · rw [if_neg hvisible]
      exact Or.inr (Or.inr rfl)

theorem readCharacter_escapeCharacter (c : Char) (rest : List Char) :
    readCharacter ('\'' :: (escapeCharacter c ++ '\'' :: rest)) = some (c, rest) := by
  rcases escapeCharacter_cases c with ⟨x, hmem⟩ | ⟨hslash, -, hchars⟩ | hchars
  · obtain ⟨hlookup, hchars, -⟩ := of_mem_namedEscapes hmem
    rw [hchars, List.cons_append, List.singleton_append, readCharacter, hlookup, Option.map_some]
  · rw [hchars, List.singleton_append, readCharacter]
    · rw [if_neg hslash]
    · exact fun _ h => absurd h hslash
  · rw [hchars, codePoint, List.append_assoc, List.append_assoc, List.cons_append, List.cons_append,
      List.singleton_append, List.singleton_append, readCharacter]
    exact readCodePoint_toDigits c rest

/-- A literal is read back whole, and nothing behind it is read. -/
theorem readCharacter_character_append (c : Char) (rest : List Char) :
    readCharacter ((character c).toList ++ rest) = some (c, rest) := by
  have h := readCharacter_escapeCharacter c rest
  rw [character, String.toList_ofList]
  simpa using h

theorem not_isControl_of_isHexDigit (h : Hex.IsHexDigit d) : ¬ Unicode.IsControl d := by
  have table : ∀ k : Fin 0x80, Hex.IsHexDigit (Char.ofNat k.val) →
      ¬ Unicode.IsControl (Char.ofNat k.val) := by decide
  have hd := table ⟨d.toNat, Hex.toNat_lt_of_isHexDigit h⟩
  rw [Char.ofNat_toNat] at hd
  exact hd h

theorem controlFree_toDigits (hbase : 1 < base) (hle : base ≤ 16) (n : Nat) :
    Unicode.ControlFree (Nat.toDigits base n) :=
  fun _ h => not_isControl_of_isHexDigit (isHexDigit_of_mem_toDigits hbase hle h)

theorem controlFree_codePoint (c : Char) : Unicode.ControlFree (codePoint c) := by
  have hopening : Unicode.ControlFree ['\\', 'u', '{'] := by decide
  have hclosing : Unicode.ControlFree ['}'] := by decide
  have hdigits : Unicode.ControlFree (Nat.toDigits 16 c.toNat) :=
    controlFree_toDigits (by decide) (by decide) c.toNat
  exact (hopening.append hdigits).append hclosing

theorem controlFree_escapeCharacter (c : Char) : Unicode.ControlFree (escapeCharacter c) := by
  rcases escapeCharacter_cases c with ⟨x, hmem⟩ | ⟨-, hvisible, hchars⟩ | hchars
  · obtain ⟨-, hchars, hx⟩ := of_mem_namedEscapes hmem
    have hslash : ¬ Unicode.IsControl '\\' := by decide
    rw [hchars]
    intro d hd
    rcases List.mem_cons.mp hd with rfl | hd
    · exact hslash
    · obtain rfl := List.mem_singleton.mp hd
      exact hx
  · rw [hchars]
    intro d hd
    obtain rfl := List.mem_singleton.mp hd
    simp only [isVisible, Bool.and_eq_true] at hvisible
    exact Unicode.not_isControl_of_isPrintable hvisible.1.1
  · rw [hchars]
    exact controlFree_codePoint c

/-- All of a literal can be shown. -/
theorem controlFree_character (c : Char) : Unicode.ControlFree (character c).toList := by
  have hquote : Unicode.ControlFree ['\''] := by decide
  rw [character, String.toList_ofList]
  exact (hquote.append (controlFree_escapeCharacter c)).append hquote

/-- A combining mark is written by its code point, which as text has a backslash that is its own. -/
example : character (Char.ofNat 0x301) = "'\\u\x7b301\x7d'" ∧ character '\\' = "'\\\\'" := by
  decide

end Literal

end ByteInspector
