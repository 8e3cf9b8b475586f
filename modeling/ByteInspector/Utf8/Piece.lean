import ByteInspector.Bytes

/-! # Cutting bytes into scalars and malformed pieces

A sequence of more than one byte opens with a lead byte, which fixes how many trailing bytes follow
and narrows the first of them: this is what shuts out overlong forms, surrogates and values past the
last code point. All later trailing bytes range over 80 to BF.

Read from the left, every byte sequence is cut into pieces: a well-formed sequence is one scalar, and
where none stands, the longest run that could still have become one (or else a single byte) is one
malformed piece. A byte that breaks a sequence is read again as the start of the next piece, and a
sequence cut off by the end of the bytes is one malformed piece.

Bytes are also handed out in chunks: as much well-formed text as there is, and the malformed part that
ends it. Only the last chunk may lack a malformed part.
-/
namespace ByteInspector.Utf8

/-- What a lead byte asks of the bytes after it, and the high bits it contributes. -/
structure Lead where
  trailing : Nat
  low : UInt8
  high : UInt8
  bits : Nat
  deriving DecidableEq, Repr

def isTrailing (b : UInt8) : Bool := 0x80 ≤ b && b ≤ 0xBF

namespace Lead

/-- C0 and C1 could only open overlong forms, and F5 onwards only values past the last code point. -/
def ofByte? (b : UInt8) : Option Lead :=
  if b < 0xC2 then none
  else if b < 0xE0 then some ⟨1, 0x80, 0xBF, b.toNat - 0xC0⟩
  else if b < 0xF0 then
    some ⟨2, if b = 0xE0 then 0xA0 else 0x80, if b = 0xED then 0x9F else 0xBF, b.toNat - 0xE0⟩
  else if b < 0xF5 then
    some ⟨3, if b = 0xF0 then 0x90 else 0x80, if b = 0xF4 then 0x8F else 0xBF, b.toNat - 0xF0⟩
  else none

/-- The longest run of bytes at the front that can continue the sequence. -/
def take (lead : Lead) : Bytes → Bytes
  | [] => []
  | b :: rest =>
    if lead.low ≤ b ∧ b ≤ lead.high then
      b :: (rest.take (lead.trailing - 1)).takeWhile isTrailing
    else []

/-- The scalar value: the lead's own bits, then six bits of each trailing byte. -/
def scalar (lead : Lead) (tail : Bytes) : Char :=
  Char.ofNat (tail.foldl (fun value b => value * 64 + (b.toNat - 0x80)) lead.bits)

theorem take_prefix (lead : Lead) (bs : Bytes) : lead.take bs <+: bs := by
  cases bs with
  | nil => exact List.prefix_rfl
  | cons b rest =>
    simp only [take]
    split
    · exact (List.prefix_cons_inj b).mpr
        ((List.takeWhile_prefix _).trans (List.take_prefix _ _))
    · exact List.nil_prefix

theorem take_append_drop (lead : Lead) (bs : Bytes) :
    lead.take bs ++ bs.drop (lead.take bs).length = bs :=
  List.prefix_iff_eq_append.mp (lead.take_prefix bs)

end Lead

inductive Piece where
  | scalar (c : Char)
  | malformed (bytes : Bytes)
  deriving DecidableEq, Repr

def Piece.bytes : Piece → Bytes
  | .scalar c => String.utf8EncodeChar c
  | .malformed bs => bs

def Piece.char? : Piece → Option Char
  | .scalar c => some c
  | .malformed _ => none

def first (b : UInt8) (rest : Bytes) : Piece × Bytes :=
  if b < 0x80 then (.scalar (Char.ofNat b.toNat), rest)
  else
    match Lead.ofByte? b with
    | none => (.malformed [b], rest)
    | some lead =>
      let tail := lead.take rest
      if tail.length = lead.trailing then (.scalar (lead.scalar tail), rest.drop tail.length)
      else (.malformed (b :: tail), rest.drop tail.length)

theorem first_rest_length (b : UInt8) (rest : Bytes) : (first b rest).2.length ≤ rest.length := by
  unfold first
  split
  · exact Nat.le_refl _
  · split
    · exact Nat.le_refl _
    · dsimp only
      split <;> simp

def pieces : Bytes → List Piece
  | [] => []
  | b :: rest => (first b rest).1 :: pieces (first b rest).2
termination_by bs => bs.length
decreasing_by
  have h := first_rest_length b rest
  simp only [List.length_cons]
  omega

@[simp] theorem pieces_nil : pieces [] = [] := by
  rw [pieces]

theorem pieces_cons (b : UInt8) (rest : Bytes) :
    pieces (b :: rest) = (first b rest).1 :: pieces (first b rest).2 := by
  rw [pieces]

structure Chunk where
  valid : List Char
  invalid : Bytes
  deriving DecidableEq, Repr

def firstChunk : Bytes → Chunk × Bytes
  | [] => (⟨[], []⟩, [])
  | b :: rest =>
    match _h : first b rest with
    | (.scalar c, later) =>
      let next := firstChunk later
      (⟨c :: next.1.valid, next.1.invalid⟩, next.2)
    | (.malformed part, later) => (⟨[], part⟩, later)
termination_by bs => bs.length
decreasing_by
  have h := first_rest_length b rest
  simp only [_h] at h
  simp only [List.length_cons]
  omega

theorem firstChunk_rest_length (bs : Bytes) : (firstChunk bs).2.length ≤ bs.length - 1 := by
  fun_induction firstChunk bs with
  | case1 => simp
  | case2 b rest c later h next ih =>
    have hlater := first_rest_length b rest
    simp only [h] at hlater
    exact Nat.le_trans ih (Nat.le_trans (Nat.sub_le _ _) hlater)
  | case3 b rest part later h =>
    have hlater := first_rest_length b rest
    simpa [h] using hlater

def chunks : Bytes → List Chunk
  | [] => []
  | b :: rest => (firstChunk (b :: rest)).1 :: chunks (firstChunk (b :: rest)).2
termination_by bs => bs.length
decreasing_by
  have h := firstChunk_rest_length (b :: rest)
  simp only [List.length_cons] at h ⊢
  omega

end ByteInspector.Utf8
