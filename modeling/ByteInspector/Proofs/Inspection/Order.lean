import ByteInspector.Proofs.Inspection.Outputs
import ByteInspector.Proofs.Rendering.Offset

/-! # The order of the checks

The name of the policy is judged before anything else, the hex text next, and then nothing can fail any
more. What is logged tells how far the run has come: nothing before the policy is known, the opening line
only where the run is verbose, and a warning only for bytes that were decoded and are not well formed.
-/
namespace ByteInspector.Inspection

def openingLines (s : Settings) (policy : Policy) : List String :=
  if s.verbose then
    ["DEBUG decoding hex input digits=" ++ Nat.repr (Utf8.encode s.input).length ++ " policy=" ++
      policy.name]
  else []

/-- The lines about bytes: one where they are malformed, with the length of their longest well-formed
front. -/
inductive Warns (bs : Bytes) : List String → Prop where
  | wellFormed : Utf8.WellFormed bs → Warns bs []
  | malformed {n : Nat} : ¬ Utf8.WellFormed bs → Utf8.WellFormed (bs.take n) →
      (∀ k, Utf8.WellFormed (bs.take k) → k ≤ n) →
      Warns bs [" WARN some parts could not be decoded as UTF-8 text offset=" ++ Nat.repr n ++
        " len=" ++ Nat.repr bs.length]

inductive Course (s : Settings) : Except Failure String → List String → Prop where
  | unknownPolicy {detail : String} : Policy.ofName? s.policy = none →
      Course s (.error (.request (.invalidArgument detail))) []
  | malformedHex {policy : Policy} {fault : Hex.Fault} : Policy.ofName? s.policy = some policy →
      Hex.decode s.input = .error fault →
      Course s (.error (.format fault)) (openingLines s policy)
  | reported {policy : Policy} {bs : Bytes} {warned : List String} :
      Policy.ofName? s.policy = some policy → Hex.decode s.input = .ok bs → Warns bs warned →
      Course s (.ok ((ReportFormat.ofName s.format).report bs (Rendering.ofBytes policy bs)))
        (openingLines s policy ++ warned)

variable {env : Environment} {s : Settings} {policy : Policy}

theorem plainLine_decoding (digits : Nat) (policy : Policy) :
    (Log.Event.decoding digits policy).plainLine =
      "DEBUG decoding hex input digits=" ++ Nat.repr digits ++ " policy=" ++ policy.name := by
  apply String.toList_inj.mp
  simp [Log.Event.plainLine, Log.Event.decoding, Log.Level.label, String.join]

/-- The opening event is let through for a verbose run alone, a warning for every run. -/
theorem log_of_events (henv : env.IsPlain) (warned : List Log.Event)
    (hwarned : ∀ e ∈ warned, e.level = .warn)
    (h : (ofSettings s).events = .decoding (Utf8.width s.input.toList) policy :: warned) :
    (Plan.ofSettings env s).log = openingLines s policy ++ warned.map Log.Event.plainLine := by
  have hfilter : warned.filter (Log.Filter.choose none s.verbose).enables = warned :=
    List.filter_eq_self.mpr fun e he => Log.Filter.enables_choose_of_warn (hwarned e he) s.verbose
  rw [Plan.log_ofSettings henv, openingLines, h, Utf8.length_encode]
  cases hverbose : s.verbose with
  | false =>
    rw [hverbose] at hfilter
    rw [List.filter_cons_of_neg (by exact Bool.false_ne_true), hfilter]
    rfl
  | true =>
    rw [hverbose] at hfilter
    rw [List.filter_cons_of_pos (by rfl), hfilter, List.map_cons, plainLine_decoding]
    rfl

theorem ofSettings_of_unknownPolicy (h : Policy.ofName? s.policy = none) :
    ∃ detail, ofSettings s = ⟨.error (.request (.invalidArgument detail)), []⟩ := by
  refine ⟨"unknown decode policy: " ++ Text.lowered s.policy ++ " (expected ignore or replace)", ?_⟩
  simp only [ofSettings, Policy.parse, h]

theorem ofSettings_of_malformedHex {fault : Hex.Fault} (hpolicy : Policy.parse s.policy = .ok policy)
    (hfault : Hex.decode s.input = .error fault) :
    ofSettings s =
      ⟨.error (.format fault), [.decoding (Utf8.width s.input.toList) policy]⟩ := by
  simp only [ofSettings, hpolicy, hfault, ofDecoded]

theorem warns_plainLine (policy : Policy) (bs : Bytes) :
    Warns bs ((warnings (Rendering.ofBytes policy bs) bs.length).map Log.Event.plainLine) := by
  unfold warnings
  cases hoffset : (Rendering.ofBytes policy bs).validUpTo with
  | none =>
    have hencode := Rendering.validUpTo_ofBytes_eq_none_iff.mp hoffset
    exact .wellFormed (Utf8.wellFormed_iff_exists_encode.mpr ⟨_, hencode⟩)
  | some n =>
    have hstops :=
      Rendering.stopsAt_of_validate_eq_error (Rendering.validUpTo_ofBytes_eq_some_iff.mp hoffset)
    have hmalformed : ¬ Utf8.WellFormed bs := by
      intro hwhole
      rw [← List.take_length (l := bs)] at hwhole
      have hle := hstops.longest _ hwhole
      have hlt := hstops.lt_length
      omega
    show Warns bs [(Log.Event.malformed n bs.length).plainLine]
    rw [plainLine_malformed]
    exact .malformed hmalformed hstops.front hstops.longest

/-- Every run goes one of three ways, by what its policy and its hex text are, and what comes out of it
agrees with what it logs. A report never fails for its format. -/
theorem course_ofSettings (henv : env.IsPlain) (s : Settings) :
    Course s (ofSettings s).result (Plan.ofSettings env s).log ∧
      ∀ detail, (ofSettings s).result ≠ .error (.request (.outputFormat detail)) := by
  have hcourse : Course s (ofSettings s).result (Plan.ofSettings env s).log := by
    cases hpolicy : Policy.ofName? s.policy with
    | none =>
      obtain ⟨detail, hrun⟩ := ofSettings_of_unknownPolicy hpolicy
      have hlog : (Plan.ofSettings env s).log = [] := by
        rw [Plan.log_ofSettings henv, hrun]
        rfl
      rw [hlog, hrun]
      exact .unknownPolicy hpolicy
    | some policy =>
      have hparse := Policy.parse_eq_ok_iff.mpr hpolicy
      cases hbytes : Hex.decode s.input with
      | error fault =>
        have hrun := ofSettings_of_malformedHex hparse hbytes
        have hlog := log_of_events henv [] (by simp) (by rw [hrun])
        rw [List.map_nil, List.append_nil] at hlog
        rw [hlog, hrun]
        exact .malformedHex hpolicy hbytes
      | ok bs =>
        have hrun := ofSettings_of_ok hparse hbytes
        have hlog := log_of_events henv _ (fun _ he => level_of_mem_warnings he) (by rw [hrun])
        rw [hlog, hrun]
        exact .reported hpolicy hbytes (warns_plainLine policy bs)
  refine ⟨hcourse, ?_⟩
  intro detail h
  rw [h] at hcourse
  cases hcourse

/-- A verbose run over a character that is cut short. -/
theorem course_of_cut_short :
    Environment.IsPlain { noColour := some (RawText.ofString "1") } ∧
      (Plan.ofSettings { noColour := some (RawText.ofString "1") }
          { hex := some " 41c3\n", policy := "Replace", verbose := true }).log =
        ["DEBUG decoding hex input digits=6 policy=replace",
          " WARN some parts could not be decoded as UTF-8 text offset=1 len=2"] ∧
      Course { hex := some " 41c3\n", policy := "Replace", verbose := true }
        (ofSettings { hex := some " 41c3\n", policy := "Replace", verbose := true }).result
        (Plan.ofSettings { noColour := some (RawText.ofString "1") }
          { hex := some " 41c3\n", policy := "Replace", verbose := true }).log := by
  have henv : Environment.IsPlain { noColour := some (RawText.ofString "1") } := ⟨rfl, by decide⟩
  refine ⟨henv, ?_, (course_ofSettings henv _).1⟩
  decide +kernel

end ByteInspector.Inspection
