import ByteInspector.CommandLine.Grammar

/-! # Values may be judged at once

The reader judges a value only when the next argument settles it. That decides which of two faults is
reported, and never whether the arguments are accepted: where they are, judging the value at once
leads to the same settings.
-/
namespace ByteInspector.CommandLine

theorem bind_ok {ε α β : Type} (a : α) (f : α → Except ε β) : (Except.ok a >>= f) = f a := rfl

theorem toOption_bind {ε α β : Type} (x : Except ε α) (f : α → Except ε β) :
    (x >>= f).toOption = x.toOption.bind fun a => (f a).toOption := by
  cases x <;> rfl

theorem toOption_eq_some_iff {ε α : Type} {x : Except ε α} {a : α} :
    x.toOption = some a ↔ x = .ok a := by
  cases x <;> simp [Except.toOption]

namespace Scan

def dashes : RawText := [.scalar '-', .scalar '-']

def complete (s : Scan) (arguments : List RawText) : Option Scan :=
  (s.arguments arguments >>= settled).toOption

def isWaiting (s : Scan) : Prop := ∃ p, s.pending = some ⟨p, none⟩

variable {s t : Scan} {first : RawText} {rest : List RawText}

theorem complete_nil (s : Scan) : s.complete [] = s.settled.toOption := rfl

theorem complete_cons (s : Scan) (rest : List RawText) (h : first ≠ dashes) :
    s.complete (first :: rest) = (s.argument first).toOption.bind (·.complete rest) := by
  have hfirst : ¬ first = [.scalar '-', .scalar '-'] := h
  rw [complete, arguments, if_neg hfirst]
  cases s.argument first <;> rfl

theorem complete_dashes (s : Scan) (values : List RawText) :
    s.complete (dashes :: values) = (values.foldlM positional s >>= settled).toOption := by
  rw [complete, arguments, dashes, if_pos rfl]

theorem complete_dashes_nil (s : Scan) : s.complete [dashes] = s.settled.toOption := by
  rw [complete_dashes]
  rfl

theorem complete_dashes_cons (s : Scan) (value : RawText) (values : List RawText) :
    s.complete (dashes :: value :: values) =
      (s.positional value).toOption.bind fun t => t.complete (dashes :: values) := by
  rw [complete_dashes, List.foldlM_cons]
  cases s.positional value with
  | error stop => rfl
  | ok t => exact (complete_dashes t values).symm

theorem pending_record (s : Scan) (p : Parameter) (value : RawText) :
    (s.record p value).1.pending = s.pending := by
  unfold record
  split
  · rfl
  · split <;> rfl

theorem eq_settle_of_settled (h : s.settled = .ok t) : t = s.settle.1 := by
  unfold settled insist at h
  split at h
  · cases h
  · exact (Except.ok.inj h).symm

theorem pending_of_settled (h : s.settled = .ok t) : t.pending = none := by
  rw [eq_settle_of_settled h]
  unfold settle
  split
  · assumption
  · rfl
  · exact pending_record _ _ _

theorem settled_eq_self (h : s.pending = none) : s.settled = .ok s := by
  rw [settled, settle, h]
  rfl

theorem settle_eq_self (h : s.pending = none) : s.settle.1 = s := by
  rw [settle, h]

/-- What settles first may be given a scan that is settled already. -/
theorem toOption_settled_bind {α : Type} (s : Scan) (f : Scan → Except Stop α) :
    (s.settled >>= f).toOption =
      s.settled.toOption.bind fun t => (t.settled >>= f).toOption := by
  rw [toOption_bind]
  cases h : s.settled with
  | error stop => rfl
  | ok t =>
    show _ = (t.settled >>= f).toOption
    rw [settled_eq_self (pending_of_settled h)]
    rfl

theorem toOption_option (s : Scan) (p : Parameter) (attached : Option RawText) :
    (s.option p attached).toOption =
      s.settled.toOption.bind fun t => (t.option p attached).toOption :=
  toOption_settled_bind s _

theorem toOption_flag (s : Scan) (p : Parameter) (long : Bool) :
    (s.flag p long).toOption = s.settled.toOption.bind fun t => (t.flag p long).toOption :=
  toOption_settled_bind s _

theorem toOption_positional (s : Scan) (value : RawText) :
    (s.positional value).toOption =
      s.settled.toOption.bind fun t => (t.positional value).toOption := by
  cases h : s.settled with
  | error stop =>
    rw [positional]
    split
    · rfl
    · rw [h]
      rfl
  | ok t =>
    have ht := eq_settle_of_settled h
    have hnone := pending_of_settled h
    rw [Except.toOption, Option.bind_some, positional, positional, settle_eq_self hnone, ← ht, h,
      settled_eq_self hnone]

theorem toOption_long (s : Scan) (body : RawText) :
    (s.long body).toOption = s.settled.toOption.bind fun t => (t.long body).toOption := by
  unfold long
  dsimp only
  split
  · cases s.settled <;> rfl
  · split
    · exact toOption_option s _ _
    · split
      · cases s.settled <;> rfl
      · exact toOption_flag s _ _

theorem toOption_cluster (s : Scan) (piece : Utf8.Piece) (more : RawText) :
    (s.cluster (piece :: more)).toOption =
      s.settled.toOption.bind fun t => (t.cluster (piece :: more)).toOption := by
  cases piece with
  | malformed bs =>
    simp only [cluster]
    cases s.settled <;> rfl
  | scalar c =>
    simp only [cluster]
    cases Parameter.ofShort? c with
    | none => cases s.settled <;> rfl
    | some p =>
      dsimp only
      split
      · split
        · exact toOption_option s _ _
        · exact toOption_option s _ _
        · exact toOption_option s _ _
      · rw [toOption_bind, toOption_flag]
        simp only [toOption_bind]
        cases s.settled <;> rfl

theorem toOption_argument (h : ¬ s.isWaiting) (given : RawText) :
    (s.argument given).toOption = s.settled.toOption.bind fun t => (t.argument given).toOption := by
  have hword : ∀ value, (s.word value).toOption =
      s.settled.toOption.bind fun t => (t.word value).toOption := by
    intro value
    have hs : s.word value = s.positional value := by
      unfold word
      split
      · next p hp => exact absurd ⟨p, hp⟩ h
      · rfl
    rw [hs, toOption_positional]
    cases hsettled : s.settled with
    | error stop => rfl
    | ok t =>
      rw [Except.toOption, Option.bind_some, Option.bind_some, word, pending_of_settled hsettled]
  unfold argument
  split
  · exact toOption_long s _
  · exact toOption_cluster s _ _
  · exact hword _

/-- A value that waits to be judged may be judged before the next argument is read. -/
theorem complete_eq_bind_settled (h : ¬ s.isWaiting) (arguments : List RawText) :
    s.complete arguments = s.settled.toOption.bind (·.complete arguments) := by
  have hnil : s.settled.toOption = s.settled.toOption.bind fun t => t.settled.toOption := by
    cases hs : s.settled with
    | error stop => rfl
    | ok t =>
      show _ = t.settled.toOption
      rw [settled_eq_self (pending_of_settled hs)]
  cases arguments with
  | nil => exact hnil
  | cons first rest =>
    by_cases hdashes : first = dashes
    · subst hdashes
      cases rest with
      | nil =>
        simp only [complete_dashes_nil]
        exact hnil
      | cons value values =>
        simp only [complete_dashes_cons]
        rw [toOption_positional]
        cases s.settled <;> rfl
    · simp only [complete_cons _ _ hdashes]
      rw [toOption_argument h]
      cases s.settled <;> rfl

end Scan

end ByteInspector.CommandLine
