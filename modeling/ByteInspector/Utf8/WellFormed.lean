import ByteInspector.Utf8.Piece

/-! # Well-formed sequences

The standard lists the well-formed sequences by the ranges of their bytes. From that table alone it
follows what a well-formed byte sequence is, what the maximal malformed part at the front of the bytes
is where no sequence stands, and how bytes are cut into both.
-/
namespace ByteInspector.Utf8

abbrev ByteRange := UInt8 × UInt8

/-- The rows of the standard's table of well-formed sequences. -/
def sequenceRows : List (List ByteRange) := [
  [(0x00, 0x7F)],
  [(0xC2, 0xDF), (0x80, 0xBF)],
  [(0xE0, 0xE0), (0xA0, 0xBF), (0x80, 0xBF)],
  [(0xE1, 0xEC), (0x80, 0xBF), (0x80, 0xBF)],
  [(0xED, 0xED), (0x80, 0x9F), (0x80, 0xBF)],
  [(0xEE, 0xEF), (0x80, 0xBF), (0x80, 0xBF)],
  [(0xF0, 0xF0), (0x90, 0xBF), (0x80, 0xBF), (0x80, 0xBF)],
  [(0xF1, 0xF3), (0x80, 0xBF), (0x80, 0xBF), (0x80, 0xBF)],
  [(0xF4, 0xF4), (0x80, 0x8F), (0x80, 0xBF), (0x80, 0xBF)]]

def fits : List ByteRange → Bytes → Bool
  | [], [] => true
  | range :: ranges, b :: bs => range.1 ≤ b && b ≤ range.2 && fits ranges bs
  | [], _ :: _ | _ :: _, [] => false

def IsSequence (bs : Bytes) : Prop := ∃ row ∈ sequenceRows, fits row bs = true

inductive WellFormed : Bytes → Prop where
  | nil : WellFormed []
  | append {s rest : Bytes} : IsSequence s → WellFormed rest → WellFormed (s ++ rest)

/-- Bytes that begin a well-formed sequence and are not the whole of it. -/
def IsProperStart (bs : Bytes) : Prop := ∃ rest, rest ≠ [] ∧ IsSequence (bs ++ rest)

/-- The malformed part at the front of `part ++ rest`: no sequence stands there, and the part is the
longest proper start, or a single byte where there is no longer one. -/
structure IsMalformedPart (part rest : Bytes) : Prop where
  nonempty : part ≠ []
  noSequence : ∀ s, s <+: part ++ rest → ¬ IsSequence s
  start : part.length = 1 ∨ IsProperStart part
  longest : ∀ longer, longer <+: part ++ rest → part.length < longer.length → ¬ IsProperStart longer

/-- The scalar value of a sequence: what the bytes hold behind their marker bits. -/
def scalarValue : Bytes → Char
  | [a] => Char.ofNat a.toNat
  | [a, b] => Char.ofNat (a.toNat % 32 * 64 + b.toNat % 64)
  | [a, b, c] => Char.ofNat (a.toNat % 16 * 4096 + b.toNat % 64 * 64 + c.toNat % 64)
  | [a, b, c, d] =>
    Char.ofNat
      (a.toNat % 8 * 262144 + b.toNat % 64 * 4096 + c.toNat % 64 * 64 + d.toNat % 64)
  | _ => default

inductive Segment where
  | sequence (bytes : Bytes)
  | malformed (bytes : Bytes)
  deriving DecidableEq, Repr

def Segment.bytes : Segment → Bytes
  | .sequence bs => bs
  | .malformed bs => bs

/-- The cutting of bytes into segments, from the left. -/
inductive Cut : Bytes → List Segment → Prop where
  | nil : Cut [] []
  | sequence {s rest : Bytes} {more : List Segment} :
      IsSequence s → Cut rest more → Cut (s ++ rest) (.sequence s :: more)
  | malformed {part rest : Bytes} {more : List Segment} :
      IsMalformedPart part rest → Cut rest more → Cut (part ++ rest) (.malformed part :: more)

theorem WellFormed.trans {a b : Bytes} (ha : WellFormed a) (hb : WellFormed b) :
    WellFormed (a ++ b) := by
  induction ha with
  | nil => exact hb
  | append hs _ ih =>
    rw [List.append_assoc]
    exact .append hs ih

end ByteInspector.Utf8
