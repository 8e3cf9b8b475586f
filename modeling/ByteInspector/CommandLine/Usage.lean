import ByteInspector.CommandLine.Similarity
import ByteInspector.RawText

/-! # Usage faults and their wording

A message opens with the fault, may add a tip and a usage line, and closes with the way to the help
text. The usage line depends on the parameters given before the fault, where the fault names any.
Whatever is quoted from the arguments is made plain, as the place where the message goes asks.
-/
namespace ByteInspector.CommandLine

def programName : String := "hexpeek"

inductive Hint where
  | nothing
  | asValue
  | similar (parameter : Parameter)
  deriving DecidableEq, Repr

inductive UsageFault where
  | unknownArgument (argument : String) (hint : Hint) (used : List Parameter)
  | missingValue (parameter : Parameter)
  | repeated (parameter : Parameter)
  | unexpectedValue (value : String) (flag : Parameter) (used : List Parameter)
  | malformedText
  deriving DecidableEq, Repr

def usageLine (used : List Parameter) : String :=
  if used.isEmpty then programName ++ " [OPTIONS] [HEX]"
  else
    programName ++
      String.join ((used.filter (· != .hex)).eraseDups.map fun p => " " ++ p.shown) ++
      (if used.contains .hex then " <HEX>" else " [HEX]")

def usageNote (used : List Parameter) : String := "\n\nUsage: " ++ usageLine used

def alternatives : String := "<" ++ "|".intercalate (Parameter.holders.map (·.alternative)) ++ ">"

/-- How a flag may be put, given the parameters used before it. One that holds a setting brings in all
that do, as alternatives, and the flag stands beside them only if it holds none. -/
def flagUsageLine (flag : Parameter) (used : List Parameter) : String :=
  if used.any Parameter.holders.contains then
    programName ++ (if Parameter.holders.contains flag then "" else " " ++ flag.shown) ++ " " ++
      alternatives
  else usageLine [flag]

def Hint.note (argument : String) : Hint → String
  | .nothing => ""
  | .asValue => "\n\n  tip: to pass '" ++ argument ++ "' as a value, use '-- " ++ argument ++ "'"
  | .similar p =>
    "\n\n  tip: a similar argument exists: '" ++
      String.join ((Parameter.longNames.filter (·.2 == p)).map fun entry => "--" ++ entry.1) ++ "'"

namespace UsageFault

def opening (plain : String → String) : UsageFault → String
  | .unknownArgument argument hint used =>
    let shown := plain argument
    "unexpected argument '" ++ shown ++ "' found" ++ hint.note shown ++ usageNote used
  | .missingValue p => "a value is required for '" ++ p.shown ++ "' but none was supplied"
  | .repeated p => "the argument '" ++ p.shown ++ "' cannot be used multiple times" ++ usageNote []
  | .unexpectedValue value flag used =>
    "unexpected value '" ++ plain value ++ "' for '" ++ flag.shown ++
      "' found; no more were expected\n\nUsage: " ++ flagUsageLine flag used
  | .malformedText => "invalid UTF-8 was detected in one or more arguments" ++ usageNote []

def message (plain : String → String) (fault : UsageFault) : String :=
  "error: " ++ fault.opening plain ++ "\n\nFor more information, try '--help'.\n"

end UsageFault

end ByteInspector.CommandLine
