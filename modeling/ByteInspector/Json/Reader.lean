import ByteInspector.Hex
import ByteInspector.Json

/-! # Reading JSON objects of plain values

The text is read token by token, with any blanks between them, and the tokens of an object are its
members. What the writer wrote, on one line or on several, is read back.
-/
namespace ByteInspector.Json

def namedCharacter? (c : Char) : Option Char :=
  if c = '"' then some '"'
  else if c = '\\' then some '\\'
  else if c = '/' then some '/'
  else if c = 'b' then some '\x08'
  else if c = 't' then some '\t'
  else if c = 'n' then some '\n'
  else if c = 'f' then some '\x0c'
  else if c = 'r' then some '\r'
  else none

def unit? (a b c d : Char) : Option Nat := do
  let a ← Hex.value? a
  let b ← Hex.value? b
  let c ← Hex.value? c
  let d ← Hex.value? d
  return ((a * 16 + b) * 16 + c) * 16 + d

/-- A string from behind its opening quote, and what follows the closing one. Escapes above the basic
plane, which are written as pairs, are not among the forms read here. -/
def readString : List Char → Option (List Char × List Char)
  | [] => none
  | '"' :: rest => some ([], rest)
  | '\\' :: 'u' :: a :: b :: c :: d :: rest =>
    match unit? a b c d with
    | some n =>
      if n.isValidChar then (readString rest).map fun read => (Char.ofNat n :: read.1, read.2)
      else none
    | none => none
  | '\\' :: c :: rest =>
    match namedCharacter? c with
    | some d => (readString rest).map fun read => (d :: read.1, read.2)
    | none => none
  | c :: rest =>
    if c ≠ '\\' ∧ 0x20 ≤ c.toNat then (readString rest).map fun read => (c :: read.1, read.2)
    else none

inductive Token where
  | openBrace
  | closeBrace
  | colon
  | comma
  | value (v : Value)
  deriving DecidableEq, Repr

def isBlank (c : Char) : Bool := c == ' ' || c == '\t' || c == '\n' || c == '\r'

/-- The token that opens with the character, and what follows it. Numbers have no leading zeros. -/
def readToken (c : Char) (rest : List Char) : Option (Token × List Char) :=
  if c = '{' then some (.openBrace, rest)
  else if c = '}' then some (.closeBrace, rest)
  else if c = ':' then some (.colon, rest)
  else if c = ',' then some (.comma, rest)
  else if c = '"' then
    (readString rest).map fun read => (.value (.string (String.ofList read.1)), read.2)
  else if c = 'n' then
    match rest with
    | 'u' :: 'l' :: 'l' :: rest => some (.value .null, rest)
    | _ => none
  else if c = '0' then some (.value (.number 0), rest)
  else if c.isDigit then
    some (.value (.number (Nat.ofDigitChars 10 (c :: rest.takeWhile Char.isDigit) 0)),
      rest.dropWhile Char.isDigit)
  else none

theorem length_of_readString {cs : List Char} {read : List Char × List Char}
    (h : readString cs = some read) : read.2.length < cs.length := by
  fun_induction readString cs generalizing read with
  | case1 => cases h
  | case2 rest => cases h; simp
  | case3 a b c d rest n hn hvalid ih =>
    obtain ⟨r, hr, rfl⟩ := Option.map_eq_some_iff.mp h
    have := ih hr
    simp only [List.length_cons]
    omega
  | case4 => cases h
  | case5 => cases h
  | case6 c rest _ d hd ih =>
    obtain ⟨r, hr, rfl⟩ := Option.map_eq_some_iff.mp h
    have := ih hr
    simp only [List.length_cons]
    omega
  | case7 => cases h
  | case8 c rest _ _ _ _ ih =>
    obtain ⟨r, hr, rfl⟩ := Option.map_eq_some_iff.mp h
    have := ih hr
    simp only [List.length_cons]
    omega
  | case9 => cases h

theorem length_of_readToken {c : Char} {rest : List Char} {read : Token × List Char}
    (h : readToken c rest = some read) : read.2.length ≤ rest.length := by
  unfold readToken at h
  split at h
  · cases h; exact Nat.le_refl _
  split at h
  · cases h; exact Nat.le_refl _
  split at h
  · cases h; exact Nat.le_refl _
  split at h
  · cases h; exact Nat.le_refl _
  split at h
  · obtain ⟨r, hr, rfl⟩ := Option.map_eq_some_iff.mp h
    exact Nat.le_of_lt (length_of_readString hr)
  split at h
  · split at h
    · cases h; simp; omega
    · cases h
  split at h
  · cases h; exact Nat.le_refl _
  split at h
  · cases h; exact (List.dropWhile_suffix _).length_le
  · cases h

def tokens (cs : List Char) : Option (List Token) :=
  match _hcs : cs.dropWhile isBlank with
  | [] => some []
  | c :: rest =>
    match _hread : readToken c rest with
    | none => none
    | some read => (tokens read.2).map (read.1 :: ·)
termination_by cs.length
decreasing_by
  have h1 := length_of_readToken _hread
  have h2 := (List.dropWhile_suffix (l := cs) isBlank).length_le
  rw [_hcs] at h2
  simp only [List.length_cons] at h2
  omega

def readMembers : List Token → Option Object
  | [.value (.string name), .colon, .value v, .closeBrace] => some [(name, v)]
  | .value (.string name) :: .colon :: .value v :: .comma :: rest =>
    (readMembers rest).map ((name, v) :: ·)
  | _ => none

def Object.read? (text : String) : Option Object :=
  match tokens text.toList with
  | some [.openBrace, .closeBrace] => some []
  | some (.openBrace :: rest) => readMembers rest
  | _ => none

end ByteInspector.Json
