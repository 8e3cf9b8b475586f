import ByteInspector.Bytes

/-! # Plain text

A message may quote text that came from outside. Terminal sequences in it are dropped, and so are
control characters; tab, line feed, form feed and return stay, and break off a sequence that is not
a string. In text that goes to a stream they only suspend it.
-/
namespace ByteInspector.Text

/-- Where a terminal sequence stands: outside, behind the escape character, among its intermediate
characters, among the parameters of a control sequence, in an operating system command, in the head
of a device control string (at its start, among its parameters, among its intermediate characters),
or in a string of another kind. -/
inductive SequenceState where
  | outside
  | escape
  | intermediate
  | parameters
  | command
  | device
  | deviceParameters
  | deviceIntermediate
  | string
  deriving DecidableEq, Repr

def isLayout (c : Char) : Bool := c == '\t' || c == '\n' || c == '\x0c' || c == '\r'

namespace SequenceState

def among (c : Char) (low high : Nat) : Bool := low ≤ c.toNat && c.toNat ≤ high

def isControl (c : Char) : Bool := among c 0 0x1F || c == '\x7f'

/-- Strings are read byte by byte, so that the terminator may stand inside a character. -/
def holdsTerminator (c : Char) : Bool := (String.utf8EncodeChar c).contains 0x9C

def opened (c : Char) : SequenceState :=
  if among c 0x20 0x2F then .intermediate
  else if c == '[' then .parameters
  else if c == ']' then .command
  else if c == 'P' then .device
  else if c == 'X' || c == '^' || c == '_' then .string
  else .outside

def inDevice (state : SequenceState) (c : Char) : SequenceState :=
  if among c 0x20 0x2F then
    .deviceIntermediate
  else if state != .deviceIntermediate && (c.isDigit || c == ';') then
    .deviceParameters
  else if state == .device && among c 0x3C 0x3F then
    .deviceParameters
  else .string

def next (state : SequenceState) (c : Char) : SequenceState × Bool :=
  if c == '\x1b' then (.escape, false)
  else if c == '\x18' || c == '\x1a' then (.outside, false)
  else
    match state with
    | .outside => (.outside, isLayout c || !isControl c)
    | .command => (if c == '\x07' then .outside else .command, false)
    | .string => (if holdsTerminator c then .outside else .string, false)
    | .device | .deviceParameters | .deviceIntermediate =>
      (if among c 0x20 0x7E then state.inDevice c else state, false)
    | .escape | .intermediate | .parameters =>
      if isLayout c then (.outside, true)
      else if !among c 0x20 0x7E then (state, false)
      else if state == .escape then (opened c, false)
      else if state == .intermediate && among c 0x20 0x2F then (.intermediate, false)
      else if state == .parameters && among c 0x20 0x3F then (.parameters, false)
      else (.outside, false)

end SequenceState

def plainFrom (state : SequenceState) : List Char → List Char
  | [] => []
  | c :: rest =>
    let next := state.next c
    if next.2 then c :: plainFrom next.1 rest else plainFrom next.1 rest

def plain (text : String) : String := String.ofList (plainFrom .outside text.toList)

/-- A sequence that a layout character suspends goes on at the next character that is dropped. What
stands between is read as outside of sequences, and a character beyond ASCII among it ends the
sequence for good. -/
def streamedFrom (state : SequenceState) (suspended : Bool) : List Char → List Char
  | [] => []
  | c :: rest =>
    if suspended && (SequenceState.outside.next c).2 then
      c :: streamedFrom (if c.toNat < 0x80 then state else .outside) true rest
    else
      let next := state.next c
      if next.2 then c :: streamedFrom state true rest else streamedFrom next.1 false rest

def streamed (text : String) : String := String.ofList (streamedFrom .outside false text.toList)

end ByteInspector.Text
