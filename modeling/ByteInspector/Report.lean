import ByteInspector.Literal
import ByteInspector.Rendering

/-! # Reports

A report shows bytes and a rendering, in two labelled lines or as one JSON object. The rendering is
taken as it is: a report does not ask whether it belongs to the bytes. Failures have the same two
forms.
-/
namespace ByteInspector

inductive ReportFormat where
  | text
  | json
  deriving DecidableEq, Repr

namespace ReportFormat

def name : ReportFormat → String
  | .text => "text"
  | .json => "json"

/-- Every name but that of JSON, in any case, means text. -/
def ofName (text : String) : ReportFormat :=
  if Text.lowered text = "json" then .json else .text

end ReportFormat

namespace Report

def textLabel : String := "Decoded Text (UTF-8):"

def binaryLabel : String := "Binary Data:"

def asText (bs : Bytes) (r : Rendering) : String :=
  textLabel ++ " " ++ r.text ++ "\n" ++ binaryLabel ++ " " ++ Literal.byteString bs ++ "\n"

def members (bs : Bytes) (r : Rendering) : Json.Object :=
  [("length", .number bs.length), ("hex", .string (Hex.encode bs)),
    ("policy", .string r.policy.name), ("text", .string r.text),
    ("valid_up_to", .ofNat? r.validUpTo), ("raw", .string (Literal.byteString bs))]

def asJson (bs : Bytes) (r : Rendering) : String := (members bs r).pretty ++ "\n"

/-- The rendering has no member of its own in the report; its members stand between the others. -/
def fields (bs : Bytes) (r : Rendering) : List Json.Field :=
  [.member "length" (.number bs.length), .member "hex" (.string (Hex.encode bs)),
    .flattened (.object r.toJson), .member "raw" (.string (Literal.byteString bs))]

/-- What keeps a record from being an object is a fault of the output format. -/
def document (record : List Json.Field) : Except RequestFault String :=
  ((Json.Object.ofFields record).map fun members => members.pretty ++ "\n").mapError .outputFormat

theorem document_fields (bs : Bytes) (r : Rendering) : document (fields bs r) = .ok (asJson bs r) := rfl

/-- A plain text has no members that a record could take over. -/
example : document [.flattened (.plain (.string "a"))] =
    .error (.outputFormat "can only flatten structs and maps (got a string)") := rfl

end Report

namespace ReportFormat

def report (format : ReportFormat) (bs : Bytes) (r : Rendering) : String :=
  match format with
  | .text => Report.asText bs r
  | .json => Report.asJson bs r

def write (format : ReportFormat) (bs : Bytes) (r : Rendering) : Except RequestFault String :=
  match format with
  | .text => .ok (Report.asText bs r)
  | .json => Report.document (Report.fields bs r)

/-- No report fails for its format. -/
theorem write_eq_ok (format : ReportFormat) (bs : Bytes) (r : Rendering) :
    format.write bs r = .ok (format.report bs r) := by
  cases format with
  | text => rfl
  | json => exact Report.document_fields bs r

/-- As JSON a failure is a document of its own; as text it is the bare message. -/
def failure (format : ReportFormat) (f : Failure) : String :=
  match format with
  | .text => f.message
  | .json =>
    match Report.document [.member "error" (.string f.message)] with
    | .ok document => document
    | .error _ => "\x7b\x7d"

theorem failure_json (f : Failure) :
    json.failure f = Json.Object.pretty [("error", .string f.message)] ++ "\n" := rfl

end ReportFormat

end ByteInspector
