import ByteInspector.Delivery

/-! # The calls of a delivery

A delivery is followed call by call. Its loop keeps one invariant: what has arrived, with what the next
write offers, is the document, and as many answers of the sink have been used as writes were made. Only
a refusal ends the writes early; without one the flush comes last. These rules leave no choice: they fix
the first call, what follows a call, and where the calls end.
-/
namespace ByteInspector

def arrived (calls : List Call) : Bytes := calls.flatMap Call.taken

def Call.isWrite : Call → Bool
  | .write .. => true
  | .flush => false

namespace WriteAnswer

def taken (offered : Bytes) : WriteAnswer → Bytes
  | .accept n => offered.take n
  | .fail _ => []

/-- The failure by which an answer ends the writes. An interruption is none. -/
def refusal? : WriteAnswer → Option IoError
  | .accept 0 => some .nothingAccepted
  | .accept _ => none
  | .fail error => if error.kind = .interrupted then none else some error

/-- What the write number `i` takes; behind the last answer all is taken. -/
def takenAt (answers : List WriteAnswer) (i : Nat) (offered : Bytes) : Bytes :=
  (answers[i]?).elim offered (taken offered)

def refusalAt? (answers : List WriteAnswer) (i : Nat) : Option IoError :=
  (answers[i]?).bind refusal?

theorem taken_of_refusal? {answer : WriteAnswer} (h : answer.refusal? ≠ none) (offered : Bytes) :
    answer.taken offered = [] := by
  cases answer with
  | accept n =>
    cases n with
    | zero => rfl
    | succ n => exact absurd rfl h
  | fail error => rfl

theorem takenAt_of_refusalAt? {answers : List WriteAnswer} {i : Nat}
    (h : refusalAt? answers i ≠ none) (offered : Bytes) : takenAt answers i offered = [] := by
  unfold refusalAt? at h
  unfold takenAt
  cases hanswer : answers[i]? with
  | none => simp [hanswer] at h
  | some answer =>
    rw [hanswer] at h
    exact taken_of_refusal? h offered

theorem isPrefix_takenAt (answers : List WriteAnswer) (i : Nat) (offered : Bytes) :
    takenAt answers i offered <+: offered := by
  unfold takenAt
  cases answers[i]? with
  | none => exact List.prefix_rfl
  | some answer =>
    cases answer with
    | accept n => exact List.take_prefix n offered
    | fail error => exact List.nil_prefix

end WriteAnswer

open WriteAnswer

theorem arrived_concat (made : List Call) (call : Call) :
    arrived (made ++ [call]) = arrived made ++ call.taken := by
  simp [arrived]

theorem arrived_flush (made : List Call) : arrived (made ++ [.flush]) = arrived made := by
  rw [arrived_concat]
  exact List.append_nil _

/-- Where an element stands in a list with a last element: it is the last, or it stands before. -/
theorem split_of_concat {α : Type} {front made later : List α} {x y : α}
    (h : front ++ [x] = made ++ y :: later) :
    (later = [] ∧ y = x ∧ made = front) ∨
      ∃ between, later = between ++ [x] ∧ front = made ++ y :: between := by
  rcases List.eq_nil_or_concat later with rfl | ⟨between, z, rfl⟩
  · obtain ⟨hfront, hlast⟩ := List.append_inj' h rfl
    exact .inl ⟨rfl, (List.singleton_inj.mp hlast).symm, hfront.symm⟩
  · rw [List.concat_eq_append, ← List.cons_append, ← List.append_assoc] at h
    obtain ⟨hfront, hlast⟩ := List.append_inj' h rfl
    obtain rfl := List.singleton_inj.mp hlast
    exact .inr ⟨between, List.concat_eq_append, hfront⟩

namespace Delivery

/-- What holds of the writes by which `left` is delivered to a sink with these answers. -/
structure Writing (left : Bytes) (answers : List WriteAnswer) (d : Delivery) : Prop where
  /-- Every call is a write of all that has not arrived yet, and only the last one is refused. -/
  write : ∀ made call later, d.calls = made ++ call :: later →
    ∃ offered, call = .write offered (takenAt answers made.length offered) ∧ offered ≠ [] ∧
      arrived made ++ offered = left ∧ (later ≠ [] → refusalAt? answers made.length = none)
  length_le : d.calls.length ≤ answers.length + 1
  last : ∀ made call, d.calls = made ++ [call] → d.failure = refusalAt? answers made.length
  complete : d.failure = none → arrived d.calls = left
  refused : ∀ error, d.failure = some error → d.calls ≠ []

theorem Writing.nil (answers : List WriteAnswer) : Writing [] answers ⟨none, []⟩ where
  write := by
    intro made call later h
    simp at h
  length_le := Nat.zero_le _
  last := by
    intro made call h
    simp at h
  complete := fun _ => rfl
  refused := by
    intro error h
    cases h

/-- A write behind which none follows: it was refused, or it took all. -/
theorem Writing.single {left : Bytes} {answers : List WriteAnswer} {d : Delivery}
    (hleft : left ≠ []) (hcalls : d.calls = [.write left (takenAt answers 0 left)])
    (hfailure : d.failure = refusalAt? answers 0)
    (hcomplete : d.failure = none → takenAt answers 0 left = left) : Writing left answers d := by
  have honly : ∀ made call later, d.calls = made ++ call :: later →
      made = [] ∧ later = [] ∧ call = .write left (takenAt answers 0 left) := by
    intro made call later h
    rw [hcalls] at h
    cases made with
    | nil =>
      obtain ⟨rfl, rfl⟩ := List.cons.inj h
      exact ⟨rfl, rfl, rfl⟩
    | cons m made => simp at h
  constructor
  · intro made call later h
    obtain ⟨rfl, rfl, rfl⟩ := honly made call later h
    exact ⟨left, rfl, hleft, rfl, fun h => absurd rfl h⟩
  · rw [hcalls]
    exact Nat.le_add_left 1 _
  · intro made call h
    obtain ⟨rfl, -, -⟩ := honly made call [] h
    exact hfailure
  · intro h
    rw [hcalls, hcomplete h]
    exact List.append_nil left
  · intro error _
    rw [hcalls]
    exact List.cons_ne_nil _ _

/-- A write that is not refused goes before the writes of the rest. -/
theorem Writing.after {left rest : Bytes} {answer : WriteAnswer} {answers : List WriteAnswer}
    {d : Delivery} (h : Writing rest answers d) (hleft : left ≠ [])
    (hanswer : answer.refusal? = none) (hrest : answer.taken left ++ rest = left) :
    Writing left (answer :: answers) (d.after (.write left (answer.taken left))) := by
  constructor
  -- a call of the rest has one more call before it and uses the answer one place later
  · intro made call later hcalls
    cases made with
    | nil =>
      obtain ⟨rfl, -⟩ := List.cons.inj hcalls
      exact ⟨left, rfl, hleft, rfl, fun _ => hanswer⟩
    | cons m made =>
      obtain ⟨hm, htail⟩ := List.cons.inj hcalls
      subst hm
      obtain ⟨offered, hcall, hoffered, harrived, hlater⟩ := h.write made call later htail
      refine ⟨offered, hcall, hoffered, ?_, hlater⟩
      show answer.taken left ++ arrived made ++ offered = left
      rw [List.append_assoc, harrived, hrest]
  · exact Nat.succ_le_succ h.length_le
  · intro made call hcalls
    cases made with
    | nil =>
      have hnone : d.calls = [] := (List.cons.inj hcalls).2
      cases hfailure : d.failure with
      | none => exact hfailure.trans hanswer.symm
      | some error => exact absurd hnone (h.refused error hfailure)
    | cons m made => exact h.last made call (List.cons.inj hcalls).2
  · intro hnone
    show answer.taken left ++ arrived d.calls = left
    rw [h.complete hnone, hrest]
  · intro error _
    exact List.cons_ne_nil _ _

/-- The invariant of the loop. -/
theorem writing_writeAll (left : Bytes) (answers : List WriteAnswer) :
    Writing left answers (writeAll left answers) := by
  -- along the answers: a refusal and the end of the script leave a single write, every other answer
  -- leaves the same statement for the rest
  fun_induction writeAll left answers with
  | case1 left hleft =>
    obtain rfl := List.isEmpty_iff.mp hleft
    exact Writing.nil []
  | case2 left hleft => exact Writing.single (by simpa using hleft) rfl rfl (fun _ => rfl)
  | case3 left answer later hleft =>
    obtain rfl := List.isEmpty_iff.mp hleft
    exact Writing.nil _
  | case4 left later hleft =>
    exact Writing.single (by simpa using hleft) rfl rfl (fun h => by cases h)
  | case5 left later hleft n hn ih =>
    have hanswer : (WriteAnswer.accept n).refusal? = none := by
      cases n with
      | zero => exact absurd rfl hn
      | succ n => rfl
    exact ih.after (by simpa using hleft) hanswer (List.take_append_drop n left)
  | case6 left later hleft error hkind ih =>
    have hanswer : (WriteAnswer.fail error).refusal? = none := if_pos hkind
    exact ih.after (by simpa using hleft) hanswer (List.nil_append left)
  | case7 left later hleft error hkind =>
    have hanswer : (WriteAnswer.fail error).refusal? = some error := if_neg hkind
    exact Writing.single (by simpa using hleft) rfl hanswer.symm (fun h => by cases h)

variable {left document : Bytes} {answers : List WriteAnswer} {d : Delivery}

theorem Writing.not_mem_flush (h : Writing left answers d) : .flush ∉ d.calls := by
  intro hmem
  obtain ⟨made, later, hcalls⟩ := List.append_of_mem hmem
  obtain ⟨offered, hflush, -⟩ := h.write made .flush later hcalls
  cases hflush

theorem Writing.isPrefix_arrived (h : Writing left answers d) {made : List Call}
    (hmade : made <+: d.calls) : arrived made <+: left := by
  obtain ⟨later, hcalls⟩ := hmade
  rcases List.eq_nil_or_concat made with rfl | ⟨before, call, rfl⟩
  · exact List.nil_prefix
  · rw [List.concat_eq_append, List.append_assoc] at hcalls
    obtain ⟨offered, rfl, -, harrived, -⟩ := h.write before call later hcalls.symm
    rw [List.concat_eq_append, arrived_concat, ← harrived]
    exact (List.prefix_append_right_inj _).mpr (isPrefix_takenAt _ _ _)

/-- Whatever is left to write is offered by the first call. -/
theorem Writing.begun (h : Writing left answers d) (hleft : left ≠ []) :
    ∃ taken later, d.calls = .write left taken :: later := by
  cases hcalls : d.calls with
  | nil =>
    cases hfailure : d.failure with
    | none =>
      have harrived := h.complete hfailure
      rw [hcalls] at harrived
      exact absurd harrived.symm hleft
    | some error => exact absurd hcalls (h.refused error hfailure)
  | cons call later =>
    obtain ⟨offered, rfl, -, rfl, -⟩ := h.write [] call later hcalls
    exact ⟨_, later, rfl⟩

/-- The last call of a delivery that failed took nothing of what was left. -/
theorem Writing.last_of_failure (h : Writing left answers d) {error : IoError}
    (hfailure : d.failure = some error) :
    ∃ made offered, d.calls = made ++ [.write offered []] ∧
      refusalAt? answers made.length = some error ∧ arrived d.calls ≠ left := by
  rcases List.eq_nil_or_concat d.calls with hnil | ⟨made, call, hcalls⟩
  · exact absurd hnil (h.refused error hfailure)
  · rw [List.concat_eq_append] at hcalls
    have hrefusal := (h.last made call hcalls).symm.trans hfailure
    obtain ⟨offered, rfl, hoffered, harrived, -⟩ := h.write made call [] hcalls
    have htaken : takenAt answers made.length offered = [] :=
      takenAt_of_refusalAt? (by simp [hrefusal]) offered
    rw [htaken] at hcalls
    refine ⟨made, offered, hcalls, hrefusal, ?_⟩
    rw [hcalls, arrived_concat, ← harrived]
    exact fun heq => hoffered (List.append_cancel_left heq).symm

/-- A delivery is its writes, and the flush where they did not fail. -/
theorem deliver_cases (document : String) (sink : Sink) :
    ∃ d, Writing (Utf8.encode document) sink.writes d ∧
      ((d.failure = none ∧ deliver document sink = forgiven ⟨sink.flush, d.calls ++ [.flush]⟩) ∨
        (d.failure ≠ none ∧ deliver document sink = d.forgiven)) := by
  refine ⟨_, writing_writeAll _ _, ?_⟩
  unfold deliver flushed
  cases (writeAll (Utf8.encode document) sink.writes).failure with
  | none => exact .inl ⟨rfl, rfl⟩
  | some error => exact .inr ⟨Option.some_ne_none error, rfl⟩

/-- How calls on a sink carry a document. -/
structure Carries (document : Bytes) (sink : Sink) (calls : List Call) : Prop where
  /-- A document that is not empty is offered as a whole by the first call. -/
  begun : document ≠ [] → ∃ taken later, calls = .write document taken :: later
  /-- After every call what has arrived is a front of the document. -/
  front : ∀ made, made <+: calls → arrived made <+: document
  /-- A write offers what has not arrived yet, never nothing, and the next answer decides. -/
  write : ∀ made offered taken later, calls = made ++ .write offered taken :: later →
    offered ≠ [] ∧ arrived made ++ offered = document ∧
      taken = takenAt sink.writes made.length offered
  /-- Nothing but a refusal keeps a write from being followed by a call. -/
  resumed : ∀ made offered taken later, calls = made ++ .write offered taken :: later →
    (later = [] ↔ refusalAt? sink.writes made.length ≠ none)
  length_writes_le : (calls.filter Call.isWrite).length ≤ sink.writes.length + 1
  flushed : arrived calls = document → ∃ made, calls = made ++ [.flush] ∧ .flush ∉ made
  not_flushed : arrived calls ≠ document → .flush ∉ calls

theorem Carries.suffix_of_mem {sink : Sink} {calls : List Call} (h : Carries document sink calls)
    {offered taken : Bytes} (hmem : .write offered taken ∈ calls) : offered <:+ document := by
  obtain ⟨made, later, hcalls⟩ := List.append_of_mem hmem
  exact ⟨arrived made, (h.write made offered taken later hcalls).2.1⟩

theorem Writing.carries_flush {sink : Sink} (h : Writing document sink.writes d)
    (hfailure : d.failure = none) : Carries document sink (d.calls ++ [.flush]) where
  begun := by
    intro hdocument
    obtain ⟨taken, later, hcalls⟩ := h.begun hdocument
    exact ⟨taken, later ++ [.flush], by rw [hcalls, List.cons_append]⟩
  front := by
    intro made hmade
    rcases List.prefix_concat_iff.mp hmade with rfl | hmade
    · exact ⟨[], by rw [List.append_nil, arrived_flush, h.complete hfailure]⟩
    · exact h.isPrefix_arrived hmade
  write := by
    intro made offered taken later hcalls
    rcases split_of_concat hcalls with ⟨-, hflush, -⟩ | ⟨between, -, hwrites⟩
    · cases hflush
    · obtain ⟨_, heq, hoffered, harrived, -⟩ := h.write made _ between hwrites
      cases heq
      exact ⟨hoffered, harrived, rfl⟩
  resumed := by
    intro made offered taken later hcalls
    rcases split_of_concat hcalls with ⟨-, hflush, -⟩ | ⟨between, rfl, hwrites⟩
    · cases hflush
    · have hrefusal : refusalAt? sink.writes made.length = none := by
        cases between with
        | nil => exact (h.last made _ hwrites).symm.trans hfailure
        | cons next between =>
          obtain ⟨_, -, -, -, hlater⟩ := h.write made _ _ hwrites
          exact hlater (List.cons_ne_nil _ _)
      exact ⟨fun hnil => by simp at hnil, fun hne => absurd hrefusal hne⟩
  length_writes_le := by
    rw [List.filter_append, List.filter_cons_of_neg (by decide), List.filter_nil, List.append_nil]
    exact Nat.le_trans (List.length_filter_le _ _) h.length_le
  flushed := fun _ => ⟨d.calls, rfl, h.not_mem_flush⟩
  not_flushed := by
    intro hne
    rw [arrived_flush] at hne
    exact absurd (h.complete hfailure) hne

theorem Writing.carries {sink : Sink} (h : Writing document sink.writes d)
    (hfailure : d.failure ≠ none) : Carries document sink d.calls where
  begun := h.begun
  front := fun _ hmade => h.isPrefix_arrived hmade
  write := by
    intro made offered taken later hcalls
    obtain ⟨_, heq, hoffered, harrived, -⟩ := h.write made _ later hcalls
    cases heq
    exact ⟨hoffered, harrived, rfl⟩
  resumed := by
    intro made offered taken later hcalls
    constructor
    · rintro rfl
      rwa [← h.last made _ hcalls]
    · intro hrefusal
      obtain ⟨_, -, -, -, hlater⟩ := h.write made _ later hcalls
      cases later with
      | nil => rfl
      | cons next later => exact absurd (hlater (List.cons_ne_nil _ _)) hrefusal
  length_writes_le := Nat.le_trans (List.length_filter_le _ _) h.length_le
  flushed := by
    intro harrived
    obtain ⟨error, herror⟩ := Option.ne_none_iff_exists'.mp hfailure
    obtain ⟨_, _, -, -, hne⟩ := h.last_of_failure herror
    exact absurd harrived hne
  not_flushed := fun _ => h.not_mem_flush

theorem carries_calls_deliver (document : String) (sink : Sink) :
    Carries (Utf8.encode document) sink (deliver document sink).calls := by
  obtain ⟨d, hwriting, ⟨hfailure, hdeliver⟩ | ⟨hfailure, hdeliver⟩⟩ := deliver_cases document sink
  · rw [hdeliver, calls_forgiven]
    exact hwriting.carries_flush hfailure
  · rw [hdeliver, calls_forgiven]
    exact hwriting.carries hfailure

section
variable {sink : Sink} {calls others made later rest : List Call} {call other : Call}

theorem Carries.calls_ne_nil (h : Carries document sink calls) : calls ≠ [] := by
  rintro rfl
  by_cases hdocument : document = []
  · obtain ⟨made, hcalls, -⟩ := h.flushed hdocument.symm
    simp at hcalls
  · obtain ⟨taken, later, hcalls⟩ := h.begun hdocument
    cases hcalls

/-- A flush ends the calls, and all has arrived before it. -/
theorem Carries.of_flush (h : Carries document sink (made ++ .flush :: later)) :
    later = [] ∧ arrived made = document := by
  have harrived : arrived (made ++ .flush :: later) = document :=
    Classical.byContradiction fun hne => h.not_flushed hne (by simp)
  obtain ⟨front, hcalls, hfront⟩ := h.flushed harrived
  rcases split_of_concat hcalls.symm with ⟨rfl, -, -⟩ | ⟨between, -, rfl⟩
  · rw [arrived_flush] at harrived
    exact ⟨rfl, harrived⟩
  · simp at hfront

theorem Carries.not_flush_of_write {offered taken : Bytes}
    (h : Carries document sink (made ++ .write offered taken :: later)) :
    ¬ Carries document sink (made ++ .flush :: rest) := by
  intro h'
  obtain ⟨hoffered, harrived, -⟩ := h.write made offered taken later rfl
  rw [← h'.of_flush.2] at harrived
  exact hoffered (List.append_right_eq_self.mp harrived)

/-- After the same calls the same call is next. -/
theorem Carries.next_eq (h : Carries document sink (made ++ call :: later))
    (h' : Carries document sink (made ++ other :: rest)) : call = other := by
  cases call with
  | write offered taken =>
    cases other with
    | write offered' taken' =>
      obtain ⟨-, harrived, rfl⟩ := h.write made offered taken later rfl
      obtain ⟨-, harrived', rfl⟩ := h'.write made offered' taken' rest rfl
      rw [List.append_cancel_left (harrived.trans harrived'.symm)]
    | flush => exact absurd h' h.not_flush_of_write
  | flush =>
    cases other with
    | write offered' taken' => exact absurd h h'.not_flush_of_write
    | flush => rfl

/-- Where one run of calls ends, no other goes on. -/
theorem Carries.not_longer (h : Carries document sink made) :
    ¬ Carries document sink (made ++ call :: later) := by
  intro h'
  rcases List.eq_nil_or_concat made with rfl | ⟨front, last, rfl⟩
  · exact h.calls_ne_nil rfl
  rw [List.concat_eq_append] at h h'
  cases last with
  | write offered taken =>
    have hrefusal := (h.resumed front offered taken [] rfl).mp rfl
    have hcalls : (front ++ [.write offered taken]) ++ call :: later =
        front ++ .write offered taken :: call :: later := by simp
    have hnil := (h'.resumed front offered taken (call :: later) hcalls).mpr hrefusal
    cases hnil
  | flush =>
    rw [List.append_assoc] at h'
    have hnil : call :: later = [] := h'.of_flush.1
    cases hnil

theorem Carries.later_eq (h : Carries document sink (made ++ later))
    (h' : Carries document sink (made ++ rest)) : later = rest := by
  -- along what is left of one run, the calls both have made being kept in front
  induction later generalizing made rest with
  | nil =>
    cases rest with
    | nil => rfl
    | cons other rest =>
      rw [List.append_nil] at h
      exact absurd h' h.not_longer
  | cons call later ih =>
    cases rest with
    | nil =>
      rw [List.append_nil] at h'
      exact absurd h h'.not_longer
    | cons other rest =>
      obtain rfl := h.next_eq h'
      rw [List.append_cons] at h h'
      rw [ih h h']

/-- The document and the sink leave no choice of the calls. -/
theorem Carries.eq (h : Carries document sink calls) (h' : Carries document sink others) :
    calls = others := by
  rw [← List.nil_append calls] at h
  rw [← List.nil_append others] at h'
  exact h.later_eq h'

end

/-- Whatever the sink answers, nothing is lost, doubled or put out of order on its way, and no other calls
would carry the document. -/
theorem carries_iff_eq_calls (document : String) (sink : Sink) (calls : List Call) :
    Carries (Utf8.encode document) sink calls ↔ calls = (deliver document sink).calls := by
  constructor
  · intro h
    exact h.eq (carries_calls_deliver document sink)
  · rintro rfl
    exact carries_calls_deliver document sink

/-- A short write is followed by a write of the rest, which an interruption only repeats. -/
example : (deliver "abc" ⟨[.accept 1, .fail (.ofKind .interrupted)], none⟩).calls =
    [.write [0x61, 0x62, 0x63] [0x61], .write [0x62, 0x63] [], .write [0x62, 0x63] [0x62, 0x63],
      .flush] := by
  rfl

end Delivery

end ByteInspector
