import ByteInspector.Unicode.Properties

/-! # Literals

A character stands in single quotes. Six characters have a named escape; whatever cannot be seen on
its own is written as its code point in braces, in small hex digits without leading zeros.

Bytes are written in printable ASCII between double quotes, behind the mark of a byte string. Tab,
line feed, return, backslash and both quotes are escaped by one character, other bytes that are not
printable by two hex digits.
-/
namespace ByteInspector.Literal

/-- The two extenders that are letters: the halfwidth sound marks have a cell of their own. -/
def isHalfwidthSoundMark (c : Char) : Bool := c == '\uff9e' || c == '\uff9f'

def isVisible (c : Char) : Bool :=
  Unicode.isPrintable c && !Unicode.isDefaultIgnorable c &&
    (!Unicode.isGraphemeExtend c || isHalfwidthSoundMark c)

def codePoint (c : Char) : List Char :=
  ['\\', 'u', '{'] ++ Nat.toDigits 16 c.toNat ++ ['}']

def escapeCharacter (c : Char) : List Char :=
  if c = Char.ofNat 0 then ['\\', '0']
  else if c = '\t' then ['\\', 't']
  else if c = '\n' then ['\\', 'n']
  else if c = '\r' then ['\\', 'r']
  else if c = '\\' then ['\\', '\\']
  else if c = '\'' then ['\\', '\'']
  else if isVisible c then [c]
  else codePoint c

def character (c : Char) : String := String.ofList ('\'' :: escapeCharacter c ++ ['\''])

def escapeByte (b : UInt8) : List Char :=
  if b = 0x09 then ['\\', 't']
  else if b = 0x0A then ['\\', 'n']
  else if b = 0x0D then ['\\', 'r']
  else if b = 0x27 then ['\\', '\'']
  else if b = 0x22 then ['\\', '"']
  else if b = 0x5C then ['\\', '\\']
  else if 0x20 ≤ b ∧ b ≤ 0x7E then [Char.ofNat b.toNat]
  else ['\\', 'x', Nat.digitChar (b.toNat / 16), Nat.digitChar (b.toNat % 16)]

def byteStringChars (bs : Bytes) : List Char :=
  ['b', '"'] ++ bs.flatMap escapeByte ++ ['"']

def byteString (bs : Bytes) : String := String.ofList (byteStringChars bs)

theorem toList_byteString (bs : Bytes) : (byteString bs).toList = byteStringChars bs :=
  String.toList_ofList

theorem printable_of_mem_escapeByte {b : UInt8} {c : Char} (h : c ∈ escapeByte b) :
    0x20 ≤ c.toNat ∧ c.toNat ≤ 0x7E := by
  have table : ∀ k : Fin 256,
      (escapeByte (UInt8.ofNat k.val)).all (fun d => 0x20 ≤ d.toNat ∧ d.toNat ≤ 0x7E) = true := by
    decide +kernel
  have hb := table ⟨b.toNat, b.toNat_lt⟩
  rw [UInt8.ofNat_toNat] at hb
  exact of_decide_eq_true (List.all_eq_true.mp hb c h)

theorem printable_of_mem_byteStringChars {bs : Bytes} {c : Char} (h : c ∈ byteStringChars bs) :
    0x20 ≤ c.toNat ∧ c.toNat ≤ 0x7E := by
  have frame : ∀ d ∈ ['b', '"'], 0x20 ≤ d.toNat ∧ d.toNat ≤ 0x7E := by
    simp
  rcases List.mem_append.mp h with h | h
  · rcases List.mem_append.mp h with h | h
    · exact frame c h
    · obtain ⟨b, -, hb⟩ := List.mem_flatMap.mp h
      exact printable_of_mem_escapeByte hb
  · exact frame c (List.mem_cons_of_mem _ h)

end ByteInspector.Literal
