import ByteInspector.Utf8.Encoding

/-! # Delivering a document

A sink answers each call in turn: it accepts some of the bytes offered, perhaps none, or fails. A
delivery offers what has not been accepted yet until nothing is left, tries again after an
interruption, and flushes once at the end. A reader that has gone away is no failure.
-/
namespace ByteInspector

inductive IoKind where
  | brokenPipe
  | interrupted
  | other
  | wouldBlock
  | storageFull
  | permissionDenied
  | connectionReset
  | writeZero
  | timedOut
  | unexpectedEof
  | notFound
  | invalidInput
  | addressInUse
  | addressNotAvailable
  | alreadyExists
  | argumentListTooLong
  | connectionAborted
  | connectionRefused
  | crossesDevices
  | deadlock
  | directoryNotEmpty
  | executableFileBusy
  | fileTooLarge
  | filesystemLoop
  | hostUnreachable
  | inProgress
  | invalidData
  | invalidFilename
  | isDirectory
  | networkDown
  | networkUnreachable
  | notConnected
  | notDirectory
  | notSeekable
  | outOfMemory
  | quotaExceeded
  | readOnlyFilesystem
  | resourceBusy
  | staleNetworkFileHandle
  | tooManyLinks
  | uncategorized
  | unsupported
  deriving DecidableEq, Repr

def IoKind.message : IoKind → String
  | .brokenPipe => "broken pipe"
  | .interrupted => "operation interrupted"
  | .other => "other error"
  | .wouldBlock => "operation would block"
  | .storageFull => "no storage space"
  | .permissionDenied => "permission denied"
  | .connectionReset => "connection reset"
  | .writeZero => "write zero"
  | .timedOut => "timed out"
  | .unexpectedEof => "unexpected end of file"
  | .notFound => "entity not found"
  | .invalidInput => "invalid input parameter"
  | .addressInUse => "address in use"
  | .addressNotAvailable => "address not available"
  | .alreadyExists => "entity already exists"
  | .argumentListTooLong => "argument list too long"
  | .connectionAborted => "connection aborted"
  | .connectionRefused => "connection refused"
  | .crossesDevices => "cross-device link or rename"
  | .deadlock => "deadlock"
  | .directoryNotEmpty => "directory not empty"
  | .executableFileBusy => "executable file busy"
  | .fileTooLarge => "file too large"
  | .filesystemLoop => "filesystem loop or indirection limit (e.g. symlink loop)"
  | .hostUnreachable => "host unreachable"
  | .inProgress => "in progress"
  | .invalidData => "invalid data"
  | .invalidFilename => "invalid filename"
  | .isDirectory => "is a directory"
  | .networkDown => "network down"
  | .networkUnreachable => "network unreachable"
  | .notConnected => "not connected"
  | .notDirectory => "not a directory"
  | .notSeekable => "seek on unseekable file"
  | .outOfMemory => "out of memory"
  | .quotaExceeded => "quota exceeded"
  | .readOnlyFilesystem => "read-only filesystem or storage medium"
  | .resourceBusy => "resource busy"
  | .staleNetworkFileHandle => "stale network file handle"
  | .tooManyLinks => "too many links"
  | .uncategorized => "uncategorized error"
  | .unsupported => "unsupported"

structure IoError where
  kind : IoKind
  message : String
  deriving DecidableEq, Repr

def IoError.ofKind (kind : IoKind) : IoError := ⟨kind, kind.message⟩

/-- A sink that accepts nothing of what it is offered ends the delivery. -/
def IoError.nothingAccepted : IoError := ⟨.writeZero, "failed to write whole buffer"⟩

/-- The answer to one write: at most `n` bytes are accepted, or the call fails. -/
inductive WriteAnswer where
  | accept (n : Nat)
  | fail (error : IoError)
  deriving DecidableEq, Repr

/-- The answers to the writes in order, after which each write is accepted whole, and the answer to
the flush. -/
structure Sink where
  writes : List WriteAnswer
  flush : Option IoError
  deriving DecidableEq, Repr

def Sink.willing : Sink := ⟨[], none⟩

inductive Call where
  | write (offered taken : Bytes)
  | flush
  deriving DecidableEq, Repr

def Call.taken : Call → Bytes
  | .write _ taken => taken
  | .flush => []

structure Delivery where
  failure : Option IoError
  calls : List Call
  deriving DecidableEq, Repr

namespace Delivery

def accepted (d : Delivery) : Bytes := d.calls.flatMap Call.taken

def after (call : Call) (d : Delivery) : Delivery := ⟨d.failure, call :: d.calls⟩

def writeAll (left : Bytes) : List WriteAnswer → Delivery
  | [] => if left.isEmpty then ⟨none, []⟩ else ⟨none, [.write left left]⟩
  | answer :: later =>
    if left.isEmpty then ⟨none, []⟩
    else
      match answer with
      | .accept 0 => ⟨some .nothingAccepted, [.write left []]⟩
      | .accept n => (writeAll (left.drop n) later).after (.write left (left.take n))
      | .fail error =>
        if error.kind = .interrupted then (writeAll left later).after (.write left [])
        else ⟨some error, [.write left []]⟩

/-- The flush comes only after every byte has been accepted. -/
def flushed (sink : Sink) (d : Delivery) : Delivery :=
  match d.failure with
  | some _ => d
  | none => ⟨sink.flush, d.calls ++ [.flush]⟩

/-- A broken pipe is forgiven, wherever it comes from. -/
def forgiven (d : Delivery) : Delivery :=
  match d.failure with
  | some error => if error.kind = .brokenPipe then ⟨none, d.calls⟩ else d
  | none => d

def deliver (document : String) (sink : Sink) : Delivery :=
  ((writeAll (Utf8.encode document) sink.writes).flushed sink).forgiven

@[simp] theorem calls_forgiven (d : Delivery) : d.forgiven.calls = d.calls := by
  unfold forgiven
  split
  · split <;> rfl
  · rfl

theorem failure_forgiven (d : Delivery) :
    d.forgiven.failure = d.failure.filter fun error => error.kind ≠ .brokenPipe := by
  unfold forgiven
  cases h : d.failure with
  | none => exact h
  | some error => by_cases hkind : error.kind = .brokenPipe <;> simp [Option.filter, hkind, h]

end Delivery

end ByteInspector
