import ByteInspector.Proofs.Delivery.Calls

/-! # When a delivery fails

A delivery fails with the failure that answered its last call, if that call failed at all and not for
a reader that has gone away. Where the last call did not fail, it was the flush, and everything had
arrived.
-/
namespace ByteInspector

open WriteAnswer

namespace Sink

def lastFailure? (sink : Sink) (calls : List Call) : Option IoError :=
  match calls.getLast? with
  | none => none
  | some .flush => sink.flush
  | some (.write _ _) => refusalAt? sink.writes (calls.length - 1)

@[simp] theorem lastFailure?_flush (sink : Sink) (made : List Call) :
    sink.lastFailure? (made ++ [.flush]) = sink.flush := by
  simp [lastFailure?]

@[simp] theorem lastFailure?_write (sink : Sink) (made : List Call) (offered taken : Bytes) :
    sink.lastFailure? (made ++ [.write offered taken]) = refusalAt? sink.writes made.length := by
  simp [lastFailure?]

structure Completed (sink : Sink) (document : Bytes) (calls : List Call) : Prop where
  arrived : arrived calls = document
  flushed : .flush ∈ calls
  accepted : sink.flush = none

end Sink

namespace Delivery

/-- The last call tells what went wrong, and without its failure all went well. -/
theorem lastFailure?_deliver (document : String) (sink : Sink) :
    (deliver document sink).failure =
        (sink.lastFailure? (deliver document sink).calls).filter
          (fun error => error.kind ≠ .brokenPipe) ∧
      (sink.lastFailure? (deliver document sink).calls = none ↔
        sink.Completed (Utf8.encode document) (deliver document sink).calls) := by
  obtain ⟨d, hwriting, ⟨hfailure, hdeliver⟩ | ⟨hfailure, hdeliver⟩⟩ := deliver_cases document sink
  · rw [hdeliver, failure_forgiven, calls_forgiven, Sink.lastFailure?_flush]
    refine ⟨rfl, ?_, Sink.Completed.accepted⟩
    intro hflush
    refine ⟨?_, List.mem_append_right _ List.mem_cons_self, hflush⟩
    rw [arrived_flush, hwriting.complete hfailure]
  · obtain ⟨error, herror⟩ := Option.ne_none_iff_exists'.mp hfailure
    obtain ⟨made, offered, hcalls, hrefusal, hne⟩ := hwriting.last_of_failure herror
    rw [hdeliver, failure_forgiven, calls_forgiven, herror]
    have hlast : sink.lastFailure? d.calls = some error := by
      rw [hcalls, Sink.lastFailure?_write, hrefusal]
    rw [hlast]
    exact ⟨rfl, fun h => absurd h (Option.some_ne_none error), fun h => absurd h.arrived hne⟩

/-- A delivery does not fail when it was completed, and when the reader has gone away. -/
theorem failure_deliver_eq_none_iff {document : String} {sink : Sink} :
    (deliver document sink).failure = none ↔
      sink.Completed (Utf8.encode document) (deliver document sink).calls ∨
        ∃ error, sink.lastFailure? (deliver document sink).calls = some error ∧
          error.kind = .brokenPipe := by
  obtain ⟨hfailure, hcompleted⟩ := lastFailure?_deliver document sink
  rw [hfailure, ← hcompleted]
  cases sink.lastFailure? (deliver document sink).calls with
  | none => simp
  | some error => simp [Option.filter]

theorem failure_deliver_of_kind_ne {document : String} {sink : Sink} {error : IoError}
    (h : sink.lastFailure? (deliver document sink).calls = some error)
    (hkind : error.kind ≠ .brokenPipe) : (deliver document sink).failure = some error := by
  rw [(lastFailure?_deliver document sink).1, h]
  simp [Option.filter, hkind]

end Delivery

end ByteInspector
