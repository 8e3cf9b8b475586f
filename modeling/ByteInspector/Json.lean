import ByteInspector.Bytes

/-! # JSON objects of plain values

The documents written here are objects whose values are null, numbers or strings. In a string the
quote, the backslash and the characters below U+0020 are escaped, all others stand as they are. A record
becomes an object unless it takes over the members of something that has none.
-/
namespace ByteInspector.Json

inductive Value where
  | null
  | number (n : Nat)
  | string (text : String)
  deriving DecidableEq, Repr

abbrev Object := List (String × Value)

def Value.ofNat? : Option Nat → Value
  | none => .null
  | some n => .number n

inductive Part where
  | plain (value : Value)
  | object (members : Object)

/-- The members that a part hands over to the record around it. -/
def Part.members : Part → Except String Object
  | .object members => .ok members
  | .plain .null => .ok []
  | .plain (.number _) => .error "can only flatten structs and maps (got an integer)"
  | .plain (.string _) => .error "can only flatten structs and maps (got a string)"

/-- A field of a record is a member of its own, or a part whose members are taken over. -/
inductive Field where
  | member (name : String) (value : Value)
  | flattened (part : Part)

def Object.ofFields : List Field → Except String Object
  | [] => .ok []
  | .member name value :: rest => (ofFields rest).map ((name, value) :: ·)
  | .flattened part :: rest =>
    part.members.bind fun members => (ofFields rest).map (members ++ ·)

def escape (c : Char) : List Char :=
  if c = '"' then ['\\', '"']
  else if c = '\\' then ['\\', '\\']
  else if c = '\x08' then ['\\', 'b']
  else if c = '\t' then ['\\', 't']
  else if c = '\n' then ['\\', 'n']
  else if c = '\x0c' then ['\\', 'f']
  else if c = '\r' then ['\\', 'r']
  else if c.toNat < 0x20 then
    ['\\', 'u', '0', '0', Nat.digitChar (c.toNat / 16), Nat.digitChar (c.toNat % 16)]
  else [c]

def quoteChars (cs : List Char) : List Char := '"' :: cs.flatMap escape ++ ['"']

def quote (text : String) : String := String.ofList (quoteChars text.toList)

def Value.chars : Value → List Char
  | .null => ['n', 'u', 'l', 'l']
  | .number n => Nat.toDigits 10 n
  | .string text => quoteChars text.toList

def joined (separator : List Char) : List (List Char) → List Char
  | [] => []
  | [item] => item
  | item :: rest => item ++ separator ++ joined separator rest

namespace Object

/-- Members between braces, laid out by what opens the object, stands before a value, separates
members and closes the object. -/
def laidOut (opening beforeValue separator closing : List Char) (members : Object) : List Char :=
  opening ++
    joined separator (members.map fun m => quoteChars m.1.toList ++ beforeValue ++ m.2.chars) ++
    closing

def compactChars : Object → List Char := laidOut ['{'] [':'] [','] ['}']

/-- One member a line, indented by two spaces; an object without members is on one line. -/
def prettyChars : Object → List Char
  | [] => ['{', '}']
  | members =>
    laidOut ['{', '\n', ' ', ' '] [':', ' '] [',', '\n', ' ', ' '] ['\n', '}'] members

def compact (members : Object) : String := String.ofList members.compactChars

def pretty (members : Object) : String := String.ofList members.prettyChars

end Object

end ByteInspector.Json
