import ByteInspector.Proofs.Delivery.Calls

/-! # What decides a delivery

The result of a delivery is decided by its first fatal event: a write that is refused while bytes are
still left, or a flush that fails once none are. Interruptions and the sizes in which the bytes are
taken decide nothing.
-/
namespace ByteInspector

namespace WriteAnswer

def capacity : WriteAnswer → Nat
  | .accept n => n
  | .fail _ => 0

def room : List WriteAnswer → Nat
  | [] => 0
  | answer :: answers => answer.capacity + room answers

/-- Some bytes are taken, or the call was only interrupted. -/
inductive IsHarmless : WriteAnswer → Prop where
  | accept (n : Nat) : 0 < n → IsHarmless (.accept n)
  | interrupted (error : IoError) : error.kind = .interrupted → IsHarmless (.fail error)

/-- The second list is the first one without some of its interruptions. -/
inductive DropsInterruptions : List WriteAnswer → List WriteAnswer → Prop where
  | nil : DropsInterruptions [] []
  | keep (answer : WriteAnswer) {xs ys : List WriteAnswer} :
      DropsInterruptions xs ys → DropsInterruptions (answer :: xs) (answer :: ys)
  | drop (error : IoError) {xs ys : List WriteAnswer} :
      error.kind = .interrupted → DropsInterruptions xs ys →
        DropsInterruptions (.fail error :: xs) ys

theorem IsHarmless.refusal?_eq_none {answer : WriteAnswer} (h : IsHarmless answer) :
    answer.refusal? = none := by
  cases h with
  | accept n hn =>
    cases n with
    | zero => cases hn
    | succ n => rfl
  | interrupted error hkind => exact if_pos hkind

/-- The write number `i` is the first that is refused, and it is made: what the answers before it let
through falls short of the size. -/
structure RefusedAt (answers : List WriteAnswer) (size i : Nat) (error : IoError) : Prop where
  refusal : refusalAt? answers i = some error
  first : ∀ j < i, refusalAt? answers j = none
  reached : room (answers.take i) < size

variable {answers : List WriteAnswer} {size i : Nat} {error : IoError}

theorem refusedAt_zero_iff {answer : WriteAnswer} :
    RefusedAt (answer :: answers) size 0 error ↔ answer.refusal? = some error ∧ 0 < size := by
  constructor
  · intro h
    exact ⟨h.refusal, h.reached⟩
  · rintro ⟨hrefusal, hsize⟩
    exact ⟨hrefusal, fun j hj => absurd hj (Nat.not_lt_zero j), hsize⟩

/-- Behind an answer that does not refuse, the same is said of the rest. -/
theorem refusedAt_succ_iff {answer : WriteAnswer} :
    RefusedAt (answer :: answers) size (i + 1) error ↔
      answer.refusal? = none ∧ RefusedAt answers (size - answer.capacity) i error := by
  constructor
  · intro h
    refine ⟨h.first 0 (Nat.succ_pos i), h.refusal, fun j hj => h.first (j + 1) (by omega), ?_⟩
    have hreached := h.reached
    simp only [List.take_succ_cons, room] at hreached
    omega
  · rintro ⟨hanswer, h⟩
    refine ⟨h.refusal, ?_, ?_⟩
    · intro j hj
      cases j with
      | zero => exact hanswer
      | succ j => exact h.first j (by omega)
    · have hreached := h.reached
      simp only [List.take_succ_cons, room]
      omega

theorem RefusedAt.eq {k : Nat} {other : IoError} (h : RefusedAt answers size i error)
    (h' : RefusedAt answers size k other) : error = other := by
  have hi : i = k := by
    rcases Nat.lt_trichotomy i k with hlt | heq | hgt
    · exact absurd ((h'.first i hlt).symm.trans h.refusal) (by simp)
    · exact heq
    · exact absurd ((h.first k hgt).symm.trans h'.refusal) (by simp)
  subst hi
  exact Option.some.inj (h.refusal.symm.trans h'.refusal)

end WriteAnswer

open WriteAnswer

/-- The failure by which the delivery of so many bytes to a sink ends. -/
inductive Sink.FatalEvent (sink : Sink) (size : Nat) : IoError → Prop where
  | write (i : Nat) (error : IoError) : RefusedAt sink.writes size i error → FatalEvent sink size error
  | flush (error : IoError) : (∀ i other, ¬ RefusedAt sink.writes size i other) →
      sink.flush = some error → FatalEvent sink size error

theorem Sink.FatalEvent.eq {sink : Sink} {size : Nat} {error other : IoError}
    (h : sink.FatalEvent size error) (h' : sink.FatalEvent size other) : error = other := by
  cases h with
  | write i error hi =>
    cases h' with
    | write k other hk => exact hi.eq hk
    | flush other hnone _ => exact absurd hi (hnone i error)
  | flush error hnone hflush =>
    cases h' with
    | write k other hk => exact absurd hk (hnone k other)
    | flush other _ hother => exact Option.some.inj (hflush.symm.trans hother)

namespace Delivery

@[simp] theorem failure_after (call : Call) (d : Delivery) : (d.after call).failure = d.failure := rfl

@[simp] theorem accepted_after (call : Call) (d : Delivery) :
    (d.after call).accepted = call.taken ++ d.accepted := rfl

@[simp] theorem writeAll_nil_left (answers : List WriteAnswer) :
    writeAll [] answers = ⟨none, []⟩ := by
  cases answers <;> rfl

variable {left : Bytes} {answer : WriteAnswer} {answers : List WriteAnswer} {error : IoError}

theorem writeAll_of_refusal (hleft : left ≠ []) (h : answer.refusal? = some error) :
    writeAll left (answer :: answers) = ⟨some error, [.write left []]⟩ := by
  have hempty : ¬ left.isEmpty = true := by simpa using hleft
  cases answer with
  | accept n =>
    cases n with
    | zero =>
      cases h
      rw [writeAll, if_neg hempty]
    | succ n => cases h
  | fail other =>
    by_cases hkind : other.kind = .interrupted
    · rw [refusal?, if_pos hkind] at h
      cases h
    · rw [refusal?, if_neg hkind] at h
      cases h
      rw [writeAll, if_neg hempty, if_neg hkind]

/-- An answer that does not refuse leaves the rest to the answers behind it. -/
theorem writeAll_of_not_refusal (hleft : left ≠ []) (h : answer.refusal? = none) :
    writeAll left (answer :: answers) =
      (writeAll (left.drop answer.capacity) answers).after (.write left (answer.taken left)) := by
  have hempty : ¬ left.isEmpty = true := by simpa using hleft
  cases answer with
  | accept n =>
    cases n with
    | zero => cases h
    | succ n =>
      rw [writeAll, if_neg hempty]
      · rfl
      · exact Nat.succ_ne_zero n
  | fail other =>
    by_cases hkind : other.kind = .interrupted
    · rw [writeAll, if_neg hempty, if_pos hkind]
      rfl
    · rw [refusal?, if_neg hkind] at h
      cases h

/-- The writes fail by the first refusal that they reach. -/
theorem failure_writeAll_eq_some_iff :
    (writeAll left answers).failure = some error ↔ ∃ i, RefusedAt answers left.length i error := by
  induction answers generalizing left with
  | nil =>
    have hfailure : (writeAll left []).failure = none := by
      rw [writeAll]
      split <;> rfl
    simp only [hfailure, reduceCtorEq, false_iff]
    rintro ⟨i, h⟩
    simpa [refusalAt?] using h.refusal
  | cons answer answers ih =>
    by_cases hleft : left = []
    -- with nothing left no write is made, and no refusal is reached
    · subst hleft
      simp only [writeAll_nil_left, reduceCtorEq, false_iff]
      rintro ⟨i, h⟩
      exact absurd h.reached (Nat.not_lt_zero _)
    have hpos := List.length_pos_iff.mpr hleft
    cases hanswer : answer.refusal? with
    | some other =>
      rw [writeAll_of_refusal hleft hanswer]
      constructor
      · intro h
        cases h
        exact ⟨0, refusedAt_zero_iff.mpr ⟨hanswer, hpos⟩⟩
      · rintro ⟨i, h⟩
        have hzero : RefusedAt (answer :: answers) left.length 0 other :=
          refusedAt_zero_iff.mpr ⟨hanswer, hpos⟩
        rw [hzero.eq h]
    | none =>
      rw [writeAll_of_not_refusal hleft hanswer, failure_after, ih, List.length_drop]
      constructor
      · rintro ⟨i, h⟩
        exact ⟨i + 1, refusedAt_succ_iff.mpr ⟨hanswer, h⟩⟩
      · rintro ⟨i, h⟩
        cases i with
        | zero =>
          rw [(refusedAt_zero_iff.mp h).1] at hanswer
          cases hanswer
        | succ i => exact ⟨i, (refusedAt_succ_iff.mp h).2⟩

structure Agrees (d e : Delivery) : Prop where
  failure : d.failure = e.failure
  accepted : d.accepted = e.accepted

theorem agrees_writeAll_of_dropsInterruptions {xs ys : List WriteAnswer}
    (h : DropsInterruptions xs ys) : Agrees (writeAll left ys) (writeAll left xs) := by
  induction h generalizing left with
  | nil => exact ⟨rfl, rfl⟩
  | @keep answer xs ys _ ih =>
    by_cases hleft : left = []
    · subst hleft
      rw [writeAll_nil_left, writeAll_nil_left]
      exact ⟨rfl, rfl⟩
    cases hanswer : answer.refusal? with
    | some other =>
      rw [writeAll_of_refusal hleft hanswer, writeAll_of_refusal hleft hanswer]
      exact ⟨rfl, rfl⟩
    | none =>
      rw [writeAll_of_not_refusal hleft hanswer, writeAll_of_not_refusal hleft hanswer]
      exact ⟨ih.failure, by rw [accepted_after, accepted_after, ih.accepted]⟩
  | @drop error xs ys hkind _ ih =>
    by_cases hleft : left = []
    · subst hleft
      rw [writeAll_nil_left, writeAll_nil_left]
      exact ⟨rfl, rfl⟩
    have hanswer : (WriteAnswer.fail error).refusal? = none := if_pos hkind
    rw [writeAll_of_not_refusal hleft hanswer]
    exact ⟨ih.failure, ih.accepted⟩

theorem failure_deliver (document : String) (sink : Sink) :
    (deliver document sink).failure =
      ((writeAll (Utf8.encode document) sink.writes).failure.or sink.flush).filter
        fun error => error.kind ≠ .brokenPipe := by
  rw [deliver, failure_forgiven, flushed]
  cases h : (writeAll (Utf8.encode document) sink.writes).failure with
  | none => rfl
  | some error => rw [h, Option.some_or]

theorem accepted_deliver (document : String) (sink : Sink) :
    (deliver document sink).accepted =
      (writeAll (Utf8.encode document) sink.writes).accepted := by
  rw [deliver, accepted, calls_forgiven, flushed]
  cases (writeAll (Utf8.encode document) sink.writes).failure with
  | none => exact arrived_flush _
  | some error => rfl

theorem agrees_deliver_of_writeAll {document : String} {sink other : Sink}
    (hflush : sink.flush = other.flush)
    (h : Agrees (writeAll (Utf8.encode document) sink.writes)
      (writeAll (Utf8.encode document) other.writes)) :
    Agrees (deliver document sink) (deliver document other) where
  failure := by rw [failure_deliver, failure_deliver, h.failure, hflush]
  accepted := by rw [accepted_deliver, accepted_deliver, h.accepted]

/-- Harmless answers take everything, however they split it. -/
theorem writeAll_of_isHarmless (left : Bytes) (h : ∀ answer ∈ answers, IsHarmless answer) :
    (writeAll left answers).failure = none ∧ (writeAll left answers).accepted = left := by
  have hnone : (writeAll left answers).failure = none := by
    apply Option.eq_none_iff_forall_ne_some.mpr
    intro error herror
    obtain ⟨i, hrefused⟩ := failure_writeAll_eq_some_iff.mp herror
    obtain ⟨answer, hanswer, hrefusal⟩ := Option.bind_eq_some_iff.mp hrefused.refusal
    rw [(h answer (List.mem_of_getElem? hanswer)).refusal?_eq_none] at hrefusal
    cases hrefusal
  exact ⟨hnone, (writing_writeAll left answers).complete hnone⟩

theorem accepted_writeAll_eq_iff :
    (writeAll left answers).accepted = left ↔
      ∀ i error, ¬ RefusedAt answers left.length i error := by
  constructor
  · intro h i error hrefused
    have hfailure := failure_writeAll_eq_some_iff.mpr ⟨i, hrefused⟩
    obtain ⟨_, _, -, -, hne⟩ := (writing_writeAll left answers).last_of_failure hfailure
    exact hne h
  · intro h
    cases hfailure : (writeAll left answers).failure with
    | none => exact (writing_writeAll left answers).complete hfailure
    | some error =>
      obtain ⟨i, hrefused⟩ := failure_writeAll_eq_some_iff.mp hfailure
      exact absurd hrefused (h i error)

/-- The first fatal event is what the writes fail by, and otherwise the flush. -/
theorem fatalEvent_iff {document : String} {sink : Sink} :
    sink.FatalEvent (Utf8.encode document).length error ↔
      (writeAll (Utf8.encode document) sink.writes).failure.or sink.flush = some error := by
  cases hfailure : (writeAll (Utf8.encode document) sink.writes).failure with
  | some other =>
    obtain ⟨i, hrefused⟩ := failure_writeAll_eq_some_iff.mp hfailure
    rw [Option.some_or]
    constructor
    · intro h
      rw [h.eq (.write i other hrefused)]
    · intro h
      cases h
      exact .write i error hrefused
  | none =>
    have hnone : ∀ i other, ¬ RefusedAt sink.writes (Utf8.encode document).length i other :=
      fun i other h => by simp [failure_writeAll_eq_some_iff.mpr ⟨i, h⟩] at hfailure
    rw [Option.none_or]
    constructor
    · intro h
      cases h with
      | write i error h => exact absurd h (hnone i error)
      | flush error _ hflush => exact hflush
    · exact .flush error hnone

theorem failure_deliver_eq_some_iff {document : String} {sink : Sink} :
    (deliver document sink).failure = some error ↔
      sink.FatalEvent (Utf8.encode document).length error ∧ error.kind ≠ .brokenPipe := by
  rw [failure_deliver, Option.filter_eq_some_iff, fatalEvent_iff, decide_eq_true_eq]

theorem succeeds_deliver_iff {document : String} {sink : Sink} :
    (deliver document sink).failure = none ↔
      ∀ error, sink.FatalEvent (Utf8.encode document).length error → error.kind = .brokenPipe := by
  rw [Option.eq_none_iff_forall_ne_some]
  simp only [ne_eq, failure_deliver_eq_some_iff, not_and, Classical.not_not]

theorem accepted_deliver_eq_iff {document : String} {sink : Sink} :
    (deliver document sink).accepted = Utf8.encode document ↔
      ∀ i error, ¬ RefusedAt sink.writes (Utf8.encode document).length i error := by
  rw [accepted_deliver]
  exact accepted_writeAll_eq_iff

structure Decided (document : String) (sink : Sink) (d : Delivery) : Prop where
  /-- The first fatal event is the failure, unless it is a broken pipe. -/
  failure : ∀ error, d.failure = some error ↔
    sink.FatalEvent (Utf8.encode document).length error ∧ error.kind ≠ .brokenPipe
  success : d.failure = none ↔
    ∀ error, sink.FatalEvent (Utf8.encode document).length error → error.kind = .brokenPipe
  unique : ∀ error other, sink.FatalEvent (Utf8.encode document).length error →
    sink.FatalEvent (Utf8.encode document).length other → error = other
  /-- All arrives exactly where no write is refused. -/
  whole : d.accepted = Utf8.encode document ↔
    ∀ i error, ¬ RefusedAt sink.writes (Utf8.encode document).length i error
  /-- A delivery that falls short without failing has met a broken pipe. -/
  short : d.failure = none → d.accepted ≠ Utf8.encode document →
    ∃ i error, RefusedAt sink.writes (Utf8.encode document).length i error ∧
      error.kind = .brokenPipe
  interruptions : ∀ writes, DropsInterruptions sink.writes writes →
    Agrees (deliver document ⟨writes, sink.flush⟩) d
  sizes : (∀ answer ∈ sink.writes, IsHarmless answer) →
    ∀ writes, (∀ answer ∈ writes, IsHarmless answer) →
      Agrees (deliver document ⟨writes, sink.flush⟩) d

/-- The first fatal event decides every delivery, and nothing else does. -/
theorem decided_deliver (document : String) (sink : Sink) :
    Decided document sink (deliver document sink) where
  failure := fun _ => failure_deliver_eq_some_iff
  success := succeeds_deliver_iff
  unique := fun _ _ h h' => h.eq h'
  whole := accepted_deliver_eq_iff
  short := by
    intro hnone hshort
    rw [ne_eq, accepted_deliver_eq_iff] at hshort
    simp only [Classical.not_forall, Classical.not_not] at hshort
    obtain ⟨i, error, hrefused⟩ := hshort
    exact ⟨i, error, hrefused, succeeds_deliver_iff.mp hnone error (.write i error hrefused)⟩
  interruptions := by
    intro writes hdrops
    exact agrees_deliver_of_writeAll rfl (agrees_writeAll_of_dropsInterruptions hdrops)
  sizes := by
    intro hsink writes hwrites
    have hall := writeAll_of_isHarmless (Utf8.encode document) hsink
    have hall' := writeAll_of_isHarmless (Utf8.encode document) hwrites
    exact agrees_deliver_of_writeAll rfl
      ⟨hall'.1.trans hall.1.symm, hall'.2.trans hall.2.symm⟩

/-- A failure behind the last byte is never met, but an interruption of the flush is fatal. -/
example : (deliver "ab" ⟨[.accept 2, .accept 0], some (.ofKind .interrupted)⟩).failure =
    some (.ofKind .interrupted) := by
  rfl

end Delivery

end ByteInspector
