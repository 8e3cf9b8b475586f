import ByteInspector.Proofs.Json.Lines
import ByteInspector.Proofs.Literal.Characters
import ByteInspector.Proofs.Report.Reading

/-! # Failures are told from their messages

A message says of what kind the failure is, and what it is about: a length, a character and where it stands,
or a text. The labels tell the kinds apart, the literal of a character ends where its quote is closed, and a
number or a text is the last thing in its message. So the failure is read back from its message, and from
the document that holds it.
-/
namespace ByteInspector

def behind {α : Type} (label : String) (read : List Char → Option α) (cs : List Char) : Option α :=
  (label.toList.isPrefixOf? cs).bind read

def Hex.Fault.read? (cs : List Char) : Option Hex.Fault :=
  (behind "odd number of hex digits: " (fun ds => (Literal.number? 10 ds).map .oddLength) cs).or <|
  (behind "invalid hex character " (fun literal =>
    (Literal.readCharacter literal).bind fun read =>
      behind " at index " (fun ds => (Literal.number? 10 ds).map (.invalidCharacter read.1)) read.2)
    cs).or <|
  behind "invalid hex string length: " (fun ds => (Literal.number? 10 ds).map .invalidLength) cs

def RequestFault.read? (cs : List Char) : Option RequestFault :=
  (behind "invalid argument: " (fun detail => some (.invalidArgument (String.ofList detail))) cs).or <|
  behind "output format error: " (fun detail => some (.outputFormat (String.ofList detail))) cs

def Failure.read? (text : String) : Option Failure :=
  (behind "format error: " (fun cs => (Hex.Fault.read? cs).map .format) text.toList).or <|
  behind "command error: " (fun cs => (RequestFault.read? cs).map .request) text.toList

variable {α : Type} {label other : String} {read : List Char → Option α}

theorem behind_append (rest : List Char) : behind label read (label.toList ++ rest) = read rest := by
  rw [behind, List.isPrefixOf?_eq_some_iff_append_eq.mpr rfl, Option.bind_some]

theorem behind_append_of_ne (hlabel : label.toList.isPrefixOf other.toList = false)
    (hother : other.toList.isPrefixOf label.toList = false) (rest : List Char) :
    behind label read (other.toList ++ rest) = none := by
  rw [behind, Report.isPrefixOf?_append_eq_none hlabel hother, Option.bind_none]

namespace Hex.Fault

theorem read?_message (fault : Fault) : read? fault.message.toList = some fault := by
  have hnumber : ∀ n, Literal.number? 10 (Nat.toDigits 10 n) = some n :=
    Literal.number?_toDigits (by decide) (by decide)
  cases fault with
  | oddLength n =>
    show read? ("odd number of hex digits: " ++ Nat.repr n).toList = _
    rw [String.toList_append, Nat.toList_repr, read?, behind_append, hnumber]
    rfl
  | invalidCharacter c i =>
    show read? ("invalid hex character " ++ Literal.character c ++ " at index " ++ Nat.repr i).toList = _
    rw [String.toList_append, String.toList_append, String.toList_append, Nat.toList_repr,
      List.append_assoc, List.append_assoc, read?, behind_append_of_ne (by decide) (by decide),
      behind_append, Literal.readCharacter_character_append, Option.bind_some, behind_append, hnumber]
    rfl
  | invalidLength n =>
    show read? ("invalid hex string length: " ++ Nat.repr n).toList = _
    rw [String.toList_append, Nat.toList_repr, read?, behind_append_of_ne (by decide) (by decide),
      behind_append_of_ne (by decide) (by decide), behind_append, hnumber]
    rfl

/-- Apart from the character there are words and digits in a message, and the character is escaped. -/
theorem controlFree_message (fault : Fault) : Unicode.ControlFree fault.message.toList := by
  have hnumber : ∀ n, Unicode.ControlFree (Nat.toDigits 10 n) :=
    Literal.controlFree_toDigits (by decide) (by decide)
  cases fault with
  | oddLength n =>
    have hlabel : Unicode.ControlFree "odd number of hex digits: ".toList := by decide
    show Unicode.ControlFree ("odd number of hex digits: " ++ Nat.repr n).toList
    rw [String.toList_append, Nat.toList_repr]
    exact hlabel.append (hnumber n)
  | invalidCharacter c i =>
    have hfirst : Unicode.ControlFree "invalid hex character ".toList := by decide
    have hsecond : Unicode.ControlFree " at index ".toList := by decide
    show Unicode.ControlFree
      ("invalid hex character " ++ Literal.character c ++ " at index " ++ Nat.repr i).toList
    rw [String.toList_append, String.toList_append, String.toList_append, Nat.toList_repr]
    exact ((hfirst.append (Literal.controlFree_character c)).append hsecond).append (hnumber i)
  | invalidLength n =>
    have hlabel : Unicode.ControlFree "invalid hex string length: ".toList := by decide
    show Unicode.ControlFree ("invalid hex string length: " ++ Nat.repr n).toList
    rw [String.toList_append, Nat.toList_repr]
    exact hlabel.append (hnumber n)

end Hex.Fault

theorem RequestFault.read?_message (fault : RequestFault) :
    read? fault.message.toList = some fault := by
  cases fault with
  | invalidArgument detail =>
    show read? ("invalid argument: " ++ detail).toList = _
    rw [String.toList_append, read?, behind_append, String.ofList_toList]
    rfl
  | outputFormat detail =>
    show read? ("output format error: " ++ detail).toList = _
    rw [String.toList_append, read?, behind_append_of_ne (by decide) (by decide), behind_append,
      String.ofList_toList]
    rfl

namespace Failure

/-- A failure is read back from its message, with all that the message is about. -/
theorem read?_message (f : Failure) : read? f.message = some f := by
  cases f with
  | format fault =>
    show read? ("format error: " ++ fault.message) = _
    rw [read?, String.toList_append, behind_append, Hex.Fault.read?_message]
    rfl
  | request fault =>
    show read? ("command error: " ++ fault.message) = _
    rw [read?, String.toList_append, behind_append_of_ne (by decide) (by decide), behind_append,
      RequestFault.read?_message]
    rfl

theorem message_injective : Function.Injective message := by
  intro f g h
  have hread := read?_message f
  rw [h, read?_message g] at hread
  exact (Option.some.inj hread).symm

theorem controlFree_message (fault : Hex.Fault) :
    Unicode.ControlFree (format fault).message.toList := by
  have hlabel : Unicode.ControlFree "format error: ".toList := by decide
  show Unicode.ControlFree ("format error: " ++ fault.message).toList
  rw [String.toList_append]
  exact hlabel.append (Hex.Fault.controlFree_message fault)

end Failure

namespace Report

theorem lines_failure_json (f : Failure) :
    (ReportFormat.json.failure f).toList =
      (Json.Object.lines [("error", .string f.message)]).flatMap (· ++ ['\n']) := by
  rw [Json.Object.flatMap_lines (List.cons_ne_nil _ _), ReportFormat.failure_json, Json.Object.pretty,
    String.toList_append, String.toList_ofList]
  rfl

structure IsNoticeOf (f : Failure) (message document : String) : Prop where
  /-- Writing it does not fail. -/
  written : Report.document [.member "error" (.string message)] = .ok document
  read_document : Json.Object.read? document = some [("error", .string message)]
  /-- Three lines, and no control character but the line feeds that end them. -/
  lines : ∃ lines : List (List Char), lines.length = 3 ∧
    document.toList = lines.flatMap (· ++ ['\n']) ∧ ∀ line ∈ lines, ∀ c ∈ line, 0x20 ≤ c.toNat
  not_empty : document ≠ "\x7b\x7d"
  read_message : Failure.read? message = some f
  unique_message : ∀ g, ReportFormat.text.failure g = message → g = f
  unique_document : ∀ g, ReportFormat.json.failure g = document → g = f
  /-- Whatever character a fault is about, its message can be shown. -/
  visible : ∀ fault, f = .format fault → ∀ c ∈ message.toList,
    ¬ (c.toNat ≤ 0x1F ∨ 0x7F ≤ c.toNat ∧ c.toNat ≤ 0x9F)

/-- Any failure is told from its message, and from its document. -/
theorem isNoticeOf_failure (f : Failure) :
    IsNoticeOf f (ReportFormat.text.failure f) (ReportFormat.json.failure f) where
  written := rfl
  read_document := read?_failure_json f
  lines := ⟨Json.Object.lines [("error", .string f.message)], Json.Object.length_lines _,
    lines_failure_json f, fun _ hline _ hc => Json.Object.visible_of_mem_lines hline hc⟩
  not_empty := by
    intro h
    have hread := read?_failure_json f
    have hnone : Json.Object.read? "\x7b\x7d" = some [] := Json.read?_pretty []
    rw [h, hnone] at hread
    cases hread
  read_message := Failure.read?_message f
  unique_message := fun _ h => Failure.message_injective h
  unique_document := by
    intro g h
    have hread := read?_failure_json g
    rw [h, read?_failure_json f] at hread
    have hmessage : f.message = g.message := by simpa using hread
    exact Failure.message_injective hmessage.symm
  visible := by
    rintro fault rfl
    exact Failure.controlFree_message fault

end Report

end ByteInspector
