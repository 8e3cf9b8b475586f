import ByteInspector.CommandLine.Scan
import ByteInspector.Delivery
import ByteInspector.Inspection
import ByteInspector.Log.Filter

/-! # A run of the program

A run is planned before standard output is touched: the plan fixes the log and how the run ends. Only
a delivery depends on the sink behind standard output, and it can only turn a success into a failure.
-/
namespace ByteInspector

structure Environment where
  hex : Option RawText := none
  logFilter : Option RawText := none
  noColour : Option RawText := none
  deriving DecidableEq, Repr

/-- The log is coloured unless the variable against it holds a text that is not empty. -/
def Environment.coloured (env : Environment) : Bool :=
  ((env.noColour.bind RawText.text?).getD "").isEmpty

/-- How a run ends: a usage text is printed, whatever becomes of it; a failure is put on standard
error; a document is delivered to standard output. -/
inductive Ending where
  | print (text : String) (isFault : Bool)
  | complain (message : String)
  | deliver (document : String) (success : Bool)
  deriving DecidableEq, Repr

/-- Failures in JSON are documents, so that they can be read where the report was expected. -/
def Ending.ofResult (format : ReportFormat) : Except Failure String → Ending
  | .ok report => .deliver report true
  | .error f =>
    match format with
    | .text => .complain ("Error: " ++ format.failure f ++ "\n")
    | .json => .deliver (format.failure f) false

def Ending.document? : Ending → Option String
  | .print _ true => none
  | .print text false => some text
  | .complain _ => none
  | .deliver document _ => some document

def deliveryComplaint (error : IoError) : String :=
  "Error writing to stdout: " ++ error.message ++ "\n"

/-- The exit code, and what is put on standard error behind the log, once standard output has answered. -/
def Ending.conclusion (failure : Option IoError) : Ending → Nat × String
  | .print text true => (2, text)
  | .print _ false => (0, "")
  | .complain message => (1, message)
  | .deliver _ success =>
    match failure with
    | some error => (1, deliveryComplaint error)
    | none => (if success then 0 else 1, "")

structure Plan where
  /-- Line by line. -/
  log : List String
  ending : Ending
  deriving DecidableEq, Repr

structure Outcome where
  status : Nat
  errors : String
  calls : List Call
  deriving DecidableEq, Repr

def Outcome.accepted (o : Outcome) : Bytes := o.calls.flatMap Call.taken

namespace Plan

def ofSettings (env : Environment) (s : Settings) : Plan :=
  let inspection := Inspection.ofSettings s
  let filter := Log.Filter.choose env.logFilter s.verbose
  let line := fun e : Log.Event => if env.coloured then e.colouredLine else e.plainLine
  ⟨(inspection.events.filter filter.enables).map line,
    .ofResult (.ofName s.format) inspection.result⟩

def ofArguments (env : Environment) (arguments : List RawText) : Plan :=
  match CommandLine.parse arguments env.hex with
  | .ok s => ofSettings env s
  | .error stop => ⟨[], .print (stop.printed env.hex) stop.isFault⟩

def logText (plan : Plan) : String := String.join (plan.log.map (· ++ "\n"))

def outcome (plan : Plan) (sink : Sink) : Outcome :=
  let d := plan.ending.document?.elim ⟨none, []⟩ (Delivery.deliver · sink)
  let conclusion := plan.ending.conclusion d.failure
  ⟨conclusion.1, plan.logText ++ conclusion.2, d.calls⟩

end Plan

end ByteInspector
