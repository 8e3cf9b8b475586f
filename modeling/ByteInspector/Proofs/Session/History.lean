import ByteInspector.Proofs.Hex.RoundTrip
import ByteInspector.Proofs.Rendering.Strict
import ByteInspector.Session

/-! # What a session keeps

A session is followed from its start, step by step. Only a rendering step changes the rendering that is
kept, so that it stays the one of the latest such step. Bytes made from that rendering are a text again,
and stay one until other bytes are loaded.
-/
namespace ByteInspector.Session

def after (steps : List Step) : Session := (({} : Session).run steps).2

theorem after_append (xs ys : List Step) : after (xs ++ ys) = ((after xs).run ys).2 := by
  rw [after, run_append]
  rfl

def Answer.isFault : Answer → Bool
  | .hexFault _ | .requestFault _ | .noRendering => true
  | .loaded .. | .policy _ | .format _ | .rendered _ | .report _ | .contains _ | .reencoded ..
  | .textBytes .. => false

/-- Steps by which bytes come into the buffer that are not those of the text kept. -/
def Step.isLoad : Step → Bool
  | .decode _ | .load _ | .rawToBytes => true
  | .policy _ | .format _ | .render | .report | .contains _ | .reencode | .textToBytes => false

variable {s : Session} {st : Step} {steps : List Step} {r : Rendering} {bs : Bytes}

theorem step_report (h : s.rendering = some r) :
    s.step .report = (.report (s.format.report s.buffer r), s) := by
  simp only [step, h, ReportFormat.write_eq_ok]

theorem step_textToBytes (h : s.rendering = some r) :
    s.step .textToBytes =
      (.textBytes (Utf8.encode r.text).length (Utf8.encode r.text == s.buffer),
        { s with buffer := Utf8.encode r.text }) := by
  rw [step, h]

/-- What a step can do, with its answer and the session behind it. -/
inductive Effect (s : Session) : Step → Answer × Session → Prop where
  | unchanged (st : Step) (answer : Answer) : Effect s st (answer, s)
  | loaded (st : Step) (bs : Bytes) :
      st.isLoad = true → Effect s st (.ofLoaded bs, { s with buffer := bs })
  | policy (name : String) (policy : Policy) : Policy.parse name = .ok policy →
      Effect s (.policy name) (.policy policy, { s with policy := policy })
  | format (name : String) (format : ReportFormat) :
      Effect s (.format name) (.format format, { s with format := format })
  | rendered (r : Rendering) : r = Rendering.ofBytes s.policy s.buffer →
      Effect s .render (.rendered r, { s with rendering := some r })
  | restored (r : Rendering) (length : Nat) (same : Bool) : s.rendering = some r →
      Effect s .textToBytes (.textBytes length same, { s with buffer := Utf8.encode r.text })

theorem effect_step (s : Session) (st : Step) : Effect s st (s.step st) := by
  cases st with
  | decode text =>
    rw [step]
    cases Hex.decode text with
    | ok bs => exact .loaded _ bs rfl
    | error fault => exact .unchanged _ _
  | load bs => exact .loaded _ bs rfl
  | policy name =>
    rw [step]
    cases hname : Policy.parse name with
    | ok policy => exact .policy name policy hname
    | error fault => exact .unchanged _ _
  | format name => exact .format name (.ofName name)
  | render => exact .rendered _ rfl
  | report =>
    obtain hnone | ⟨r, hkept⟩ := s.rendering.eq_none_or_eq_some
    · rw [step, hnone]
      exact .unchanged _ _
    · rw [step_report hkept]
      exact .unchanged _ _
  | contains needle => exact .unchanged _ _
  | reencode => exact .unchanged _ _
  | textToBytes =>
    obtain hnone | ⟨r, hkept⟩ := s.rendering.eq_none_or_eq_some
    · rw [step, hnone]
      exact .unchanged _ _
    · rw [step_textToBytes hkept]
      exact .restored r _ _ hkept
  | rawToBytes => exact .loaded _ _ rfl

namespace Effect

variable {next : Answer × Session}

/-- A step that fails leaves the session as it was. -/
theorem eq_of_isFault (h : Effect s st next) (hfault : next.1.isFault = true) : next.2 = s := by
  cases h with
  | unchanged => rfl
  | loaded => cases hfault
  | policy => cases hfault
  | format => cases hfault
  | rendered => cases hfault
  | restored => cases hfault

/-- Only a rendering step changes the rendering. -/
theorem rendering_eq (h : Effect s st next) (hrender : st ≠ .render) :
    next.2.rendering = s.rendering := by
  cases h with
  | unchanged => rfl
  | loaded => rfl
  | policy => rfl
  | format => rfl
  | rendered => exact absurd rfl hrender
  | restored => rfl

end Effect

theorem rendering_step (h : st ≠ .render) : (s.step st).2.rendering = s.rendering :=
  (effect_step s st).rendering_eq h

/-- Hex digits that were just written are read back. -/
theorem step_reencode (s : Session) :
    s.step .reencode = (.reencoded (Hex.encode s.buffer) true, s) := by
  rw [step, spells, Hex.decode_encode]
  simp

theorem rendering_run (h : .render ∉ steps) : (s.run steps).2.rendering = s.rendering := by
  induction steps generalizing s with
  | nil => rfl
  | cons first rest ih =>
    obtain ⟨hfirst, hrest⟩ := not_or.mp (mt List.mem_cons.mpr h)
    exact (ih hrest).trans (rendering_step (Ne.symm hfirst))

/-- The rendering that is kept, with its own text in the buffer. -/
structure Restored (r : Rendering) (s : Session) : Prop where
  rendering : s.rendering = some r
  buffer : s.buffer = Utf8.encode r.text

theorem Effect.keeps_restored {next : Answer × Session} (heffect : Effect s st next)
    (h : Restored r s) (hrender : st ≠ .render) (hload : st.isLoad = false) :
    Restored r next.2 := by
  refine ⟨(heffect.rendering_eq hrender).trans h.rendering, ?_⟩
  cases heffect with
  | unchanged => exact h.buffer
  | loaded _ _ hst =>
    rw [hload] at hst
    cases hst
  | policy => exact h.buffer
  | format => exact h.buffer
  | rendered => exact absurd rfl hrender
  | restored r' _ _ hr' =>
    obtain rfl := Option.some.inj (h.rendering.symm.trans hr')
    rfl

theorem restored_run (h : Restored r s)
    (hsteps : ∀ st ∈ steps, st ≠ .render ∧ st.isLoad = false) : Restored r (s.run steps).2 := by
  induction steps generalizing s with
  | nil => exact h
  | cons first rest ih =>
    obtain ⟨hrender, hload⟩ := hsteps first List.mem_cons_self
    have hfirst := (effect_step s first).keeps_restored h hrender hload
    exact ih hfirst fun st hst => hsteps st (List.mem_cons_of_mem _ hst)

def Shows (bs : Bytes) (s : Session) : Prop :=
  ∃ policy, s.rendering = some (Rendering.ofBytes policy bs)

theorem shows_step (h : Shows bs s) (hbuffer : s.buffer = bs) : Shows bs (s.step st).2 := by
  by_cases hrender : st = .render
  · subst hrender
    exact ⟨s.policy, hbuffer ▸ rfl⟩
  · obtain ⟨policy, hrendering⟩ := h
    exact ⟨policy, (rendering_step hrender).trans hrendering⟩

/-- While the bytes stay, whatever is rendered anew shows them too. -/
theorem shows_run (h : Shows bs s) (hbuffer : ∀ front, front <+: steps → (s.run front).2.buffer = bs) :
    Shows bs (s.run steps).2 := by
  induction steps generalizing s with
  | nil => exact h
  | cons first rest ih =>
    refine ih (shows_step h (hbuffer [] List.nil_prefix)) fun front hfront => ?_
    -- a front of the rest is, behind the first step, a front of all
    exact hbuffer (first :: front) ((List.prefix_cons_inj first).mpr hfront)

/-- The text of a rendering spells the same bytes exactly where nothing was lost. -/
theorem step_textToBytes_of_shows (h : Shows bs s) (hbuffer : s.buffer = bs) (policy : Policy) :
    ∃ length same, (s.step .textToBytes).1 = .textBytes length same ∧
      (same = true ↔ (Rendering.ofBytes policy bs).isLossless = true) := by
  obtain ⟨shown, hrendering⟩ := h
  refine ⟨_, _, congrArg Prod.fst (step_textToBytes hrendering), ?_⟩
  rw [hbuffer, beq_iff_eq, ← Rendering.validUpTo_ofBytes_eq_none_iff, Rendering.isLossless,
    Option.isNone_iff_eq_none]
  rfl

structure Lawful (made : List Step) : Prop where
  /-- The next step is answered in the state that they led to. -/
  answered : ∀ st, ({} : Session).run (made ++ [st]) =
    ((({} : Session).run made).1 ++ [((after made).step st).1], ((after made).step st).2)
  fault : ∀ st, ((after made).step st).1.isFault = true → ((after made).step st).2 = after made
  reencode : ∃ hex, ((after made).step .reencode).1 = .reencoded hex true
  /-- What is kept was made by the latest rendering step, from what was there then. -/
  kept : ∀ earlier later, made = earlier ++ .render :: later → .render ∉ later →
    (after made).rendering =
      some (Rendering.ofBytes (after earlier).policy (after earlier).buffer)
  not_kept : .render ∉ made → (after made).rendering = none
  /-- A report shows what is kept, beside the bytes that are there now. -/
  report : ∀ r, (after made).rendering = some r →
    (after made).step .report =
      (.report ((after made).format.report (after made).buffer r), after made)
  /-- The bytes of a text that was kept are shown as that text, and nothing is lost. -/
  restored : ∀ earlier later r, made = earlier ++ .textToBytes :: later →
    (∀ st ∈ later, st ≠ .render ∧ st.isLoad = false) → (after earlier).rendering = some r →
    ((after made).step .render).1 = .rendered ⟨(after made).policy, r.text, none⟩ ∧
      ∀ policy, Rendering.ofBytes policy (after made).buffer = ⟨policy, r.text, none⟩
  /-- While the bytes stay as they were rendered, their text tells whether anything was lost. -/
  same : ∀ earlier later, made = earlier ++ .render :: later →
    (∀ front, front <+: later →
      (after (earlier ++ .render :: front)).buffer = (after earlier).buffer) →
    ∃ length same, ((after made).step .textToBytes).1 = .textBytes length same ∧
      (same = true ↔
        (Rendering.ofBytes (after earlier).policy (after earlier).buffer).isLossless = true)

/-- Every session, whatever steps it has made, keeps to these laws. -/
theorem lawful_of_steps (made : List Step) : Lawful made where
  answered := by
    intro st
    rw [run_append]
    rfl
  fault := fun st h => (effect_step _ st).eq_of_isFault h
  reencode := ⟨_, congrArg Prod.fst (step_reencode (after made))⟩
  kept := by
    rintro earlier later rfl hlater
    rw [after_append]
    exact rendering_run hlater
  not_kept := fun h => rendering_run h
  report := fun r h => step_report h
  restored := by
    rintro earlier later r rfl hlater hkept
    have hstart : Restored r ((after earlier).step .textToBytes).2 := by
      rw [step_textToBytes hkept]
      exact ⟨hkept, rfl⟩
    have hend := restored_run hstart hlater
    rw [after_append]
    change Restored r ((after earlier).run (.textToBytes :: later)).2 at hend
    have hshown : ∀ policy, Rendering.ofBytes policy
        ((after earlier).run (.textToBytes :: later)).2.buffer = ⟨policy, r.text, none⟩ := by
      intro policy
      rw [hend.buffer, Rendering.ofBytes, Policy.decodeText_encode, Utf8.validate_eq_ok_iff.mpr rfl]
    exact ⟨congrArg Answer.rendered (hshown _), hshown⟩
  same := by
    rintro earlier later rfl hbuffer
    have hstart : Shows (after earlier).buffer ((after earlier).step .render).2 := ⟨_, rfl⟩
    have hstays : ∀ front, front <+: later →
        (((after earlier).step .render).2.run front).2.buffer = (after earlier).buffer := by
      intro front hfront
      have h := hbuffer front hfront
      rwa [after_append] at h
    rw [after_append]
    exact step_textToBytes_of_shows (shows_run hstart hstays) (hstays later List.prefix_rfl) _

/-- Where no rendering is kept, no text is given back, and what is shown next may have lost bytes. -/
theorem lossy_after_textToBytes_without_rendering :
    ¬ ∀ earlier later : List Step, (∀ st ∈ later, st ≠ .render ∧ st.isLoad = false) →
      ∀ r, ((after (earlier ++ .textToBytes :: later)).step .render).1 = .rendered r →
        r.isLossless = true := by
  intro h
  have hpieces : Utf8.pieces [0xFF] = [.malformed [0xFF]] := by
    rw [Utf8.pieces_cons]
    show _ :: Utf8.pieces [] = _
    rw [Utf8.pieces_nil]
    rfl
  have hlossy : (Rendering.ofBytes .ignore [0xFF]).validUpTo = some 0 := by
    rw [Rendering.ofBytes, Utf8.validate, hpieces]
    rfl
  have hlossless := h [.load [0xFF]] [] (by simp) (Rendering.ofBytes .ignore [0xFF]) rfl
  rw [Rendering.isLossless, hlossy] at hlossless
  cases hlossless

end ByteInspector.Session
