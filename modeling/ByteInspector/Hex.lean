import ByteInspector.Utf8.Encoding

/-! # Hex text

Two digits spell a byte, the high half first; digits of either case are read and small ones are
written. Blanks around the digits are dropped. The digits are read as bytes, so that a fault names a
byte; it is then located in the text as it was given, where a whole character stands.
-/
namespace ByteInspector.Hex

/-- Why a text spells no bytes. Lengths and indices count bytes of the text. -/
inductive Fault where
  | oddLength (length : Nat)
  | invalidCharacter (character : Char) (index : Nat)
  | invalidLength (length : Nat)
  deriving DecidableEq, Repr

def value? (c : Char) : Option Nat :=
  if '0' ≤ c ∧ c ≤ '9' then some (c.toNat - '0'.toNat)
  else if 'a' ≤ c ∧ c ≤ 'f' then some (c.toNat - 'a'.toNat + 10)
  else if 'A' ≤ c ∧ c ≤ 'F' then some (c.toNat - 'A'.toNat + 10)
  else none

def digits (b : UInt8) : List Char := [Nat.digitChar (b.toNat / 16), Nat.digitChar (b.toNat % 16)]

def encode (bs : Bytes) : String := String.ofList (bs.flatMap digits)

/-- The blanks that may stand around the digits: space, tab, line feed, form feed, return. -/
def isBlank (c : Char) : Bool :=
  c == ' ' || c == '\t' || c == '\n' || c == '\x0c' || c == '\r'

def trimmed (cs : List Char) : List Char :=
  ((cs.dropWhile isBlank).reverse.dropWhile isBlank).reverse

/-- Why bytes are no digit pairs. A byte that is no digit is shown as the character of its number. -/
inductive PairFault where
  | oddLength
  | notDigit (shown : Char) (index : Nat)
  | wrongLength
  deriving DecidableEq, Repr

def byteChar (b : UInt8) : Char := Char.ofNat b.toNat

def decodePairs (index : Nat) : Bytes → Except PairFault Bytes
  | [] => .ok []
  | [_] => .error .oddLength
  | b :: c :: rest =>
    match value? (byteChar b), value? (byteChar c) with
    | none, _ => .error (.notDigit (byteChar b) index)
    | some _, none => .error (.notDigit (byteChar c) (index + 1))
    | some high, some low =>
      (decodePairs (index + 2) rest).map (UInt8.ofNat (16 * high + low) :: ·)

/-- An odd number of digits is reported before a bad one. -/
def decodeDigits (digits : Bytes) : Except PairFault Bytes :=
  if digits.length % 2 = 1 then .error .oddLength else decodePairs 0 digits

def characterAt? (offset : Nat) : List Char → Option Char
  | [] => none
  | c :: rest =>
    if offset = 0 then some c
    else if offset < c.utf8Size then none
    else characterAt? (offset - c.utf8Size) rest

/-- The fault of digits that stand behind so many bytes of the text. Where no character starts at the
index, the byte's own is reported. -/
def PairFault.located (body : List Char) (leading : Nat) : PairFault → Fault
  | .oddLength => .oddLength (Utf8.width body)
  | .notDigit shown index =>
    .invalidCharacter ((characterAt? index body).getD shown) (leading + index)
  | .wrongLength => .invalidLength (Utf8.width body)

def decode (text : String) : Except Fault Bytes :=
  let cs := text.toList
  let body := trimmed cs
  let leading := Utf8.width cs - Utf8.width (cs.dropWhile isBlank)
  (decodeDigits (Utf8.encode (String.ofList body))).mapError (PairFault.located body leading)

theorem value?_digitChar {n : Nat} (h : n < 16) : value? (Nat.digitChar n) = some n := by
  have table : ∀ k : Fin 16, value? (Nat.digitChar k) = some k.val := by decide
  exact table ⟨n, h⟩

end ByteInspector.Hex
