import ByteInspector.Failure
import ByteInspector.Json
import ByteInspector.Text.LowerCase
import ByteInspector.Utf8.Piece

/-! # Bytes shown as text

A policy says what is shown for malformed bytes. A rendering keeps the policy that made it, the text, and
the offset of the first malformed piece. The text comes from the permissive reading and the offset from
the strict one.
-/
namespace ByteInspector

inductive Policy where
  | ignore
  | replace
  deriving DecidableEq, Repr

namespace Policy

instance : Inhabited Policy := ⟨.ignore⟩

def name : Policy → String
  | .ignore => "ignore"
  | .replace => "replace"

def ofName? (text : String) : Option Policy :=
  let key := Text.lowered text
  if key = "ignore" then some .ignore
  else if key = "replace" then some .replace
  else none

def parse (text : String) : Except RequestFault Policy :=
  match ofName? text with
  | some policy => .ok policy
  | none =>
    .error (.invalidArgument
      ("unknown decode policy: " ++ Text.lowered text ++ " (expected ignore or replace)"))

theorem parse_eq_ok_iff {text : String} {policy : Policy} :
    parse text = .ok policy ↔ ofName? text = some policy := by
  unfold parse
  cases ofName? text <;> simp

end Policy

structure Rendering where
  policy : Policy
  text : String
  validUpTo : Option Nat
  deriving DecidableEq, Repr

/-- A chunk adds its text; its malformed part is dropped, or one mark is put in its place. -/
def Policy.append (policy : Policy) (text : String) (chunk : Utf8.Chunk) : String :=
  let text := text ++ String.ofList chunk.valid
  if policy = .replace ∧ chunk.invalid ≠ [] then text.push (Char.ofNat 0xFFFD) else text

def Policy.decodeText (policy : Policy) (bs : Bytes) : String :=
  (Utf8.chunks bs).foldl policy.append ""

namespace Rendering

def ofBytes (policy : Policy) (bs : Bytes) : Rendering where
  policy := policy
  text := policy.decodeText bs
  validUpTo :=
    match Utf8.validate bs with
    | .ok _ => none
    | .error offset => some offset

def isLossless (r : Rendering) : Bool := r.validUpTo.isNone

def toJson (r : Rendering) : Json.Object :=
  [("policy", .string r.policy.name), ("text", .string r.text),
    ("valid_up_to", .ofNat? r.validUpTo)]

end Rendering

end ByteInspector
