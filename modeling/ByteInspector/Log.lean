import ByteInspector.Rendering

/-! # Log events

An event has a level, a message and named fields. Its line is plain, or coloured for a terminal.
-/
namespace ByteInspector.Log

inductive Level where
  | error
  | warn
  | info
  | debug
  | trace
  deriving DecidableEq, Repr

namespace Level

def number : Level → Nat
  | .error => 1
  | .warn => 2
  | .info => 3
  | .debug => 4
  | .trace => 5

def name : Level → String
  | .error => "error"
  | .warn => "warn"
  | .info => "info"
  | .debug => "debug"
  | .trace => "trace"

/-- As it stands at the head of a line, five places wide. -/
def label : Level → String
  | .error => "ERROR"
  | .warn => " WARN"
  | .info => " INFO"
  | .debug => "DEBUG"
  | .trace => "TRACE"

def colour : Level → String
  | .error => "31"
  | .warn => "33"
  | .info => "32"
  | .debug => "34"
  | .trace => "35"

def default (verbose : Bool) : Level := if verbose then .debug else .warn

end Level

structure Event where
  level : Level
  message : String
  fields : List (String × String)
  deriving DecidableEq, Repr

def source : String := "hexpeek::cli::commands"

namespace Event

/-- An inspection starts; the digits are counted as bytes of the text as given. -/
def decoding (digits : Nat) (policy : Policy) : Event :=
  ⟨.debug, "decoding hex input", [("digits", Nat.repr digits), ("policy", policy.name)]⟩

def malformed (offset length : Nat) : Event :=
  ⟨.warn, "some parts could not be decoded as UTF-8 text",
    [("offset", Nat.repr offset), ("len", Nat.repr length)]⟩

def plainLine (e : Event) : String :=
  e.level.label ++ " " ++ e.message ++
    String.join (e.fields.map fun field => " " ++ field.1 ++ "=" ++ field.2)

def styled (code text : String) : String := "\x1b[" ++ code ++ "m" ++ text ++ "\x1b[0m"

def colouredLine (e : Event) : String :=
  styled e.level.colour e.level.label ++ " " ++ e.message ++
    String.join (e.fields.map fun field =>
      " " ++ styled "3" field.1 ++ styled "2" "=" ++ field.2)

end Event

end ByteInspector.Log
