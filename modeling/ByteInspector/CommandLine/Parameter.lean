import ByteInspector.Bytes

/-! # Settings and parameters

The names of policy and format stay as they were given; they are judged when a run uses them. Of the
parameters two options take a value, one flag is remembered, two flags end the parse at once, and one
value stands without a name.
-/
namespace ByteInspector

structure Settings where
  hex : Option String := none
  policy : String := "ignore"
  verbose : Bool := false
  format : String := "text"
  deriving DecidableEq, Repr

/-- The snapshot of an empty database, as a server sends it when a replica joins. -/
def emptySnapshotHex : String :=
  "524544495330303131fa0972656469732d76657205372e322e30fa0a72656469732d62697473c040fa056374696d65" ++
  "c26d08bc65fa08757365642d6d656dc2b0c41000fa08616f662d62617365c000fff06e3bfec0ff5aa2"

/-- The hex text to inspect. An empty text counts as given. -/
def Settings.input (s : Settings) : String := s.hex.getD emptySnapshotHex

namespace CommandLine

inductive Parameter where
  | hex
  | policy
  | verbose
  | format
  | help
  | version
  deriving DecidableEq, Repr

namespace Parameter

def shown : Parameter → String
  | .hex => "[HEX]"
  | .policy => "--policy <POLICY>"
  | .verbose => "--verbose"
  | .format => "--format <FORMAT>"
  | .help => "--help"
  | .version => "--version"

def holders : List Parameter := [.hex, .policy, .verbose, .format]

def alternative : Parameter → String
  | .hex => "HEX"
  | p => p.shown

def longNames : List (String × Parameter) :=
  [("policy", .policy), ("verbose", .verbose), ("format", .format), ("help", .help),
    ("version", .version)]

def ofLong? (name : String) : Option Parameter := longNames.lookup name

def ofShort? (c : Char) : Option Parameter :=
  if c = 'p' then some .policy
  else if c = 'v' then some .verbose
  else if c = 'h' then some .help
  else if c = 'V' then some .version
  else none

def takesValue : Parameter → Bool
  | .hex | .policy | .format => true
  | .verbose | .help | .version => false

end Parameter

end CommandLine

end ByteInspector
