import ByteInspector.Utf8.Piece

/-! # Texts and their bytes

Encoding a text, measuring it in bytes, and reading bytes back strictly: the strict reading gives the
text, or the offset of the first malformed piece.
-/
namespace ByteInspector.Utf8

def encode (text : String) : Bytes := text.toList.flatMap String.utf8EncodeChar

def width : List Char → Nat
  | [] => 0
  | c :: rest => c.utf8Size + width rest

def readFrom (offset : Nat) : List Piece → Except Nat (List Char)
  | [] => .ok []
  | .scalar c :: rest => (readFrom (offset + c.utf8Size) rest).map (c :: ·)
  | .malformed _ :: _ => .error offset

/-- The text that the bytes spell, or the offset at which they stop being well formed. -/
def validate (bs : Bytes) : Except Nat String := (readFrom 0 (pieces bs)).map String.ofList

@[simp] theorem width_nil : width [] = 0 := rfl

@[simp] theorem width_cons (c : Char) (cs : List Char) : width (c :: cs) = c.utf8Size + width cs :=
  rfl

theorem width_append (cs ds : List Char) : width (cs ++ ds) = width cs + width ds := by
  induction cs with
  | nil => simp
  | cons c cs ih => simp only [List.cons_append, width_cons, ih, Nat.add_assoc]

/-- These are the bytes that the text is kept in. -/
theorem encode_eq_toUTF8 (text : String) : encode text = text.toUTF8.data.toList := by
  have hbytes : text.toByteArray = text.toList.utf8Encode := by
    rw [← String.toByteArray_ofList, String.ofList_toList]
  rw [encode, String.toUTF8_eq_toByteArray, hbytes, List.utf8Encode, List.data_toByteArray]

theorem length_encode (text : String) : (encode text).length = width text.toList := by
  rw [encode]
  generalize text.toList = cs
  induction cs with
  | nil => rfl
  | cons c cs ih =>
    rw [List.flatMap_cons, List.length_append, String.length_utf8EncodeChar, ih, width_cons]

@[simp] theorem encode_empty : encode "" = [] := by
  simp [encode]

@[simp] theorem encode_ofList_cons (c : Char) (cs : List Char) :
    encode (String.ofList (c :: cs)) = String.utf8EncodeChar c ++ encode (String.ofList cs) := by
  simp [encode]

theorem length_encode_ofList (cs : List Char) :
    (encode (String.ofList cs)).length = width cs := by
  rw [length_encode, String.toList_ofList]

theorem encode_append (s t : String) : encode (s ++ t) = encode s ++ encode t := by
  simp [encode]

theorem encode_ofList_append (cs ds : List Char) :
    encode (String.ofList (cs ++ ds)) = encode (String.ofList cs) ++ encode (String.ofList ds) := by
  rw [String.ofList_append, encode_append]

end ByteInspector.Utf8
