import ByteInspector.CommandLine.Parameter
import ByteInspector.Log
import ByteInspector.Report

/-! # Inspecting a hex text

The policy is judged first and before anything is logged, then the hex text. The report of what was
decoded comes with a warning where some of it is not text.
-/
namespace ByteInspector

structure Inspection where
  result : Except Failure String
  events : List Log.Event

namespace Inspection

def warnings (r : Rendering) (length : Nat) : List Log.Event :=
  match r.validUpTo with
  | none => []
  | some offset => [.malformed offset length]

def ofDecoded (policy : Policy) (format : ReportFormat) :
    Except Hex.Fault Bytes → Inspection
  | .error fault => ⟨.error (.format fault), []⟩
  | .ok bs =>
    let r := Rendering.ofBytes policy bs
    ⟨(format.write bs r).mapError .request, warnings r bs.length⟩

/-- Events of every level are kept: which of them are shown is the log's business. -/
def ofSettings (s : Settings) : Inspection :=
  match Policy.parse s.policy with
  | .error fault => ⟨.error (.request fault), []⟩
  | .ok policy =>
    let rest := ofDecoded policy (.ofName s.format) (Hex.decode s.input)
    ⟨rest.result, .decoding (Utf8.width s.input.toList) policy :: rest.events⟩

end Inspection

end ByteInspector
