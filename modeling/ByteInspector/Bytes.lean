/-! # Byte sequences

Bytes are lists, so that searching, splitting and decoding follow the data.
-/
namespace ByteInspector

abbrev Bytes := List UInt8

namespace Bytes

/-- Whether the needle stands in the bytes in one piece; the empty needle stands everywhere. -/
def occursIn (needle : Bytes) : Bytes → Bool
  | [] => needle.isEmpty
  | b :: rest => needle.isPrefixOf (b :: rest) || occursIn needle rest

theorem occursIn_cons (needle : Bytes) (b : UInt8) (rest : Bytes) :
    needle.occursIn (b :: rest) = (needle.isPrefixOf (b :: rest) || needle.occursIn rest) := rfl

theorem nil_occursIn (bs : Bytes) : occursIn [] bs = true := by
  cases bs <;> simp [occursIn]

theorem occursIn_iff_isInfix (needle bs : Bytes) : needle.occursIn bs = true ↔ needle <:+: bs := by
  induction bs with
  | nil => simp [occursIn]
  | cons b rest ih =>
    rw [occursIn_cons, Bool.or_eq_true, List.isPrefixOf_iff_prefix, ih, List.infix_cons_iff]

end Bytes

end ByteInspector
