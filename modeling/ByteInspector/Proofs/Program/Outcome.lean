import ByteInspector.Program
import ByteInspector.Proofs.Delivery.Failure
import ByteInspector.Proofs.Report.Reading

/-! # The outcome of a run

Two things can go wrong once the arguments are read: the inspection and the delivery. A run succeeds
when neither did. A reader that has gone away is no failure of a delivery, but it makes no success of a
failed inspection either. Standard output sees one document at most, the report or the failure.
-/
namespace ByteInspector

/-- A document went to standard output by a delivery of its own, and standard error got what was logged and
the complaint about that delivery, if there is one. -/
structure Outcome.Delivers (log document : String) (sink : Sink) (o : Outcome) : Prop where
  calls : o.calls = (Delivery.deliver document sink).calls
  carried : Delivery.Carries (Utf8.encode document) sink o.calls
  errors : o.errors = log ++ (Delivery.deliver document sink).failure.elim "" deliveryComplaint

structure Outcome.Conduct (log : String) (format : ReportFormat) (result : Except Failure String)
    (sink : Sink) (o : Outcome) : Prop where
  /-- It succeeds with a report and a delivery that does not fail. -/
  success : o.status = 0 ↔ ∃ report, result = .ok report ∧
    (Delivery.deliver report sink).failure = none
  /-- A report is what standard output is offered. -/
  reported : ∀ report, result = .ok report → o.Delivers log report sink
  /-- Such a report arrived whole, or its reader went away. -/
  complete : ∀ report, result = .ok report → ((Delivery.deliver report sink).failure = none ↔
    sink.Completed (Utf8.encode report) o.calls ∨
      ∃ error, sink.lastFailure? o.calls = some error ∧ error.kind = .brokenPipe)
  status_le : o.status ≤ 1
  /-- A failure in text leaves standard output alone. -/
  failed_text : ∀ f, result = .error f → format = .text →
    o = ⟨1, log ++ ("Error: " ++ f.message ++ "\n"), []⟩
  /-- A failure in JSON is what standard output is offered, and stays a failure. -/
  failed_json : ∀ f, result = .error f → format = .json → o.status = 1 ∧
    ∃ document, Json.Object.read? document = some [("error", .string f.message)] ∧
      document = format.failure f ∧ o.Delivers log document sink
  broken : ∀ error, sink.lastFailure? o.calls = some error → error.kind ≠ .brokenPipe →
    o.status = 1 ∧ o.errors = log ++ deliveryComplaint error
  quiet : o.status = 0 → o.errors = log
  /-- Report and failure are never mixed. -/
  single : ∃ document,
    (result = .ok document ∨ ∃ f, result = .error f ∧ document = format.failure f) ∧
    o.accepted <+: Utf8.encode document ∧
    ∀ offered taken, .write offered taken ∈ o.calls → offered <:+ Utf8.encode document

variable {plan : Plan} {document : String} {success : Bool} {sink : Sink}

namespace Plan

/-- A delivery takes its success from the plan and can only lose it. -/
theorem outcome_of_deliver (h : plan.ending = .deliver document success) (sink : Sink) :
    plan.outcome sink =
      ⟨if (Delivery.deliver document sink).failure = none ∧ success then 0 else 1,
        plan.logText ++ (Delivery.deliver document sink).failure.elim "" deliveryComplaint,
        (Delivery.deliver document sink).calls⟩ := by
  simp only [outcome, h, Ending.document?, Option.elim_some, Ending.conclusion]
  cases (Delivery.deliver document sink).failure with
  | none => simp
  | some error => simp

theorem delivers_outcome (h : plan.ending = .deliver document success) (sink : Sink) :
    (plan.outcome sink).Delivers plan.logText document sink := by
  rw [outcome_of_deliver h]
  exact ⟨rfl, Delivery.carries_calls_deliver document sink, rfl⟩

theorem status_outcome_eq_zero_iff (h : plan.ending = .deliver document success) :
    (plan.outcome sink).status = 0 ↔
      (Delivery.deliver document sink).failure = none ∧ success := by
  rw [outcome_of_deliver h]
  simp

theorem status_outcome_le (h : plan.ending = .deliver document success) :
    (plan.outcome sink).status ≤ 1 := by
  rw [outcome_of_deliver h]
  dsimp only
  split <;> omega

end Plan

namespace Outcome

open Plan

variable {o : Outcome} {log : String}

/-- A delivery whose last call failed is no success, and what went wrong is told. -/
theorem broken_of_deliver (h : plan.ending = .deliver document success) {error : IoError}
    (hlast : sink.lastFailure? (plan.outcome sink).calls = some error)
    (hkind : error.kind ≠ .brokenPipe) :
    (plan.outcome sink).status = 1 ∧
      (plan.outcome sink).errors = plan.logText ++ deliveryComplaint error := by
  rw [(delivers_outcome h sink).calls] at hlast
  rw [outcome_of_deliver h, Delivery.failure_deliver_of_kind_ne hlast hkind]
  constructor
  · simp
  · rfl

theorem quiet_of_deliver (h : plan.ending = .deliver document success)
    (hstatus : (plan.outcome sink).status = 0) : (plan.outcome sink).errors = plan.logText := by
  have hfailure := ((status_outcome_eq_zero_iff h).mp hstatus).1
  rw [(delivers_outcome h sink).errors, hfailure]
  exact String.append_empty

theorem Delivers.accepted_prefix (h : o.Delivers log document sink) :
    o.accepted <+: Utf8.encode document :=
  h.carried.front _ List.prefix_rfl

theorem conduct_of_ok (format : ReportFormat) (h : plan.ending = .deliver document true) :
    Conduct plan.logText format (.ok document) sink (plan.outcome sink) where
  success := by
    rw [status_outcome_eq_zero_iff h]
    constructor
    · rintro ⟨hfailure, -⟩
      exact ⟨document, rfl, hfailure⟩
    · rintro ⟨_, hreport, hfailure⟩
      cases hreport
      exact ⟨hfailure, rfl⟩
  reported := by
    intro _ hreport
    cases hreport
    exact delivers_outcome h sink
  complete := by
    intro _ hreport
    cases hreport
    rw [(delivers_outcome h sink).calls]
    exact Delivery.failure_deliver_eq_none_iff
  status_le := status_outcome_le h
  failed_text := by
    intro f hf
    cases hf
  failed_json := by
    intro f hf
    cases hf
  broken := fun _ hlast hkind => broken_of_deliver h hlast hkind
  quiet := quiet_of_deliver h
  single := by
    have hdelivers := delivers_outcome h sink
    exact ⟨document, .inl rfl, hdelivers.accepted_prefix,
      fun _ _ hmem => hdelivers.carried.suffix_of_mem hmem⟩

theorem conduct_of_error_text {f : Failure}
    (h : plan.ending = .complain ("Error: " ++ f.message ++ "\n")) :
    Conduct plan.logText .text (.error f) sink (plan.outcome sink) := by
  have houtcome : plan.outcome sink = ⟨1, plan.logText ++ ("Error: " ++ f.message ++ "\n"), []⟩ := by
    simp only [outcome, h, Ending.document?, Option.elim_none, Ending.conclusion]
  rw [houtcome]
  constructor
  case success =>
    constructor
    · intro hstatus
      cases hstatus
    · rintro ⟨_, hreport, -⟩
      cases hreport
  case reported =>
    intro _ hreport
    cases hreport
  case complete =>
    intro _ hreport
    cases hreport
  case status_le => exact Nat.le_refl 1
  case failed_text =>
    intro g hg _
    cases hg
    rfl
  case failed_json =>
    intro g _ hformat
    cases hformat
  case broken =>
    intro error hlast
    cases hlast
  case quiet =>
    intro hstatus
    cases hstatus
  case single => exact ⟨f.message, .inr ⟨f, rfl, rfl⟩, List.nil_prefix, fun _ _ hmem => by cases hmem⟩

theorem conduct_of_error_json {f : Failure}
    (h : plan.ending = .deliver (ReportFormat.json.failure f) false) :
    Conduct plan.logText .json (.error f) sink (plan.outcome sink) where
  success := by
    rw [status_outcome_eq_zero_iff h]
    constructor
    · rintro ⟨-, hfalse⟩
      cases hfalse
    · rintro ⟨_, hreport, -⟩
      cases hreport
  reported := by
    intro _ hreport
    cases hreport
  complete := by
    intro _ hreport
    cases hreport
  status_le := status_outcome_le h
  failed_text := by
    intro g _ hformat
    cases hformat
  failed_json := by
    intro g hg _
    cases hg
    refine ⟨?_, _, Report.read?_failure_json f, rfl, delivers_outcome h sink⟩
    rw [outcome_of_deliver h]
    exact if_neg (fun hboth => Bool.false_ne_true hboth.2)
  broken := fun _ hlast hkind => broken_of_deliver h hlast hkind
  quiet := quiet_of_deliver h
  single := by
    have hdelivers := delivers_outcome h sink
    exact ⟨_, .inr ⟨f, rfl, rfl⟩, hdelivers.accepted_prefix,
      fun _ _ hmem => hdelivers.carried.suffix_of_mem hmem⟩

/-- Every run conducts itself, whatever its settings and whatever the sink answers. -/
theorem conduct_outcome (env : Environment) (s : Settings) (sink : Sink) :
    Conduct (String.join ((Plan.ofSettings env s).log.map (· ++ "\n"))) (ReportFormat.ofName s.format)
      (Inspection.ofSettings s).result sink ((Plan.ofSettings env s).outcome sink) := by
  have hending : (Plan.ofSettings env s).ending =
      .ofResult (ReportFormat.ofName s.format) (Inspection.ofSettings s).result := rfl
  generalize Plan.ofSettings env s = plan at hending ⊢
  generalize (Inspection.ofSettings s).result = result at hending ⊢
  generalize ReportFormat.ofName s.format = format at hending ⊢
  -- the three endings of a run: a report, a failure on standard error, a failure as a document
  cases result with
  | ok report => exact conduct_of_ok format hending
  | error f =>
    cases format with
    | text => exact conduct_of_error_text hending
    | json => exact conduct_of_error_json hending

end Outcome

end ByteInspector
