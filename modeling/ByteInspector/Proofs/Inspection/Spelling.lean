import ByteInspector.Proofs.Hex.LetterCase
import ByteInspector.Proofs.Inspection.Order
import ByteInspector.Proofs.Report.Page

/-! # What does not depend on the spelling

Two runs whose hex texts have one canonical form are alike: both succeed or both fail, with faults of one
kind, and their warnings are the same. What their reports say of the bytes does not depend on the policy,
and whether a run is verbose shows in its log alone.
-/
namespace ByteInspector.Inspection

variable {env : Environment} {s t : Settings} {p q policy : Policy}

/-- A fault of the hex text leaves no warning. -/
theorem warnLines_of_malformedHex (henv : env.IsPlain) {fault : Hex.Fault}
    (hpolicy : Policy.parse s.policy = .ok policy) (hfault : Hex.decode s.input = .error fault) :
    (Plan.ofSettings env s).warnLines = [] := by
  rw [Plan.warnLines_ofSettings henv, ofSettings_of_malformedHex hpolicy hfault]
  rfl

structure Alike (s t : Settings) : Prop where
  success : (∃ output, (ofSettings s).result = .ok output) ↔
    ∃ output, (ofSettings t).result = .ok output
  failure : ∀ f g, (ofSettings s).result = .error f → (ofSettings t).result = .error g →
    ∃ a b, f = .format a ∧ g = .format b ∧ Hex.SameFault s.input t.input a b
  same_output : Policy.parse s.policy = Policy.parse t.policy →
    ReportFormat.ofName s.format = ReportFormat.ofName t.format →
      ∀ output, (ofSettings s).result = .ok output → (ofSettings t).result = .ok output
  /-- Reports in text have the same last line. -/
  same_line : ReportFormat.ofName s.format = .text → ReportFormat.ofName t.format = .text →
    ∀ a b, (ofSettings s).result = .ok a → (ofSettings t).result = .ok b →
      ∃ front front' last,
        Text.Lines a.toList (front ++ [last]) ∧ Text.Lines b.toList (front' ++ [last])
  /-- Reports in JSON differ in no member but those of the policy and the text. -/
  same_members : ReportFormat.ofName s.format = .json → ReportFormat.ofName t.format = .json →
    ∀ a b, (ofSettings s).result = .ok a → (ofSettings t).result = .ok b →
      ∃ length hex policy policy' text text' validUpTo raw,
        Json.Object.read? a = some [("length", length), ("hex", hex), ("policy", policy), ("text", text),
          ("valid_up_to", validUpTo), ("raw", raw)] ∧
        Json.Object.read? b = some [("length", length), ("hex", hex), ("policy", policy'),
          ("text", text'), ("valid_up_to", validUpTo), ("raw", raw)]
  same_warnings : ∀ env : Environment, env.IsPlain →
    (Plan.ofSettings env s).warnLines = (Plan.ofSettings env t).warnLines
  verbose : ∀ flag, (ofSettings { s with verbose := flag }).result = (ofSettings s).result ∧
    (ofSettings { t with verbose := flag }).result = (ofSettings t).result

theorem result_verbose (s : Settings) (flag : Bool) :
    (ofSettings { s with verbose := flag }).result = (ofSettings s).result := by
  simp only [ofSettings, Settings.input]

/-- The offset does not depend on the policy. -/
theorem validUpTo_ofBytes_eq (p q : Policy) (bs : Bytes) :
    (Rendering.ofBytes p bs).validUpTo = (Rendering.ofBytes q bs).validUpTo := rfl

theorem alike_of_ok {bs : Bytes} (hp : Policy.parse s.policy = .ok p)
    (hq : Policy.parse t.policy = .ok q) (hs : Hex.decode s.input = .ok bs)
    (ht : Hex.decode t.input = .ok bs) : Alike s t := by
  have hsrun := ofSettings_of_ok hp hs
  have htrun := ofSettings_of_ok hq ht
  constructor
  case success =>
    rw [hsrun, htrun]
    exact ⟨fun _ => ⟨_, rfl⟩, fun _ => ⟨_, rfl⟩⟩
  case failure =>
    intro f g hf
    rw [hsrun] at hf
    cases hf
  case same_output =>
    intro hpolicy hformat output houtput
    rw [hp, hq] at hpolicy
    obtain rfl := Except.ok.inj hpolicy
    rw [hsrun, hformat] at houtput
    rw [htrun, houtput]
  case same_line =>
    intro hstext httext a b ha hb
    rw [hsrun, hstext] at ha
    rw [htrun, httext] at hb
    obtain rfl := Except.ok.inj ha
    obtain rfl := Except.ok.inj hb
    obtain ⟨front, hfront⟩ := Report.exists_lines_asText bs (Rendering.ofBytes p bs)
    obtain ⟨front', hfront'⟩ := Report.exists_lines_asText bs (Rendering.ofBytes q bs)
    exact ⟨front, front', _, hfront, hfront'⟩
  case same_members =>
    intro hsjson htjson a b ha hb
    rw [hsrun, hsjson] at ha
    rw [htrun, htjson] at hb
    obtain rfl := Except.ok.inj ha
    obtain rfl := Except.ok.inj hb
    have hread := Report.read?_asJson bs (Rendering.ofBytes q bs)
    rw [Report.members, validUpTo_ofBytes_eq q p] at hread
    exact ⟨_, _, _, _, _, _, _, _, Report.read?_asJson bs (Rendering.ofBytes p bs), hread⟩
  case same_warnings =>
    intro env henv
    rw [Plan.warnLines_of_ok henv hp hs, Plan.warnLines_of_ok henv hq ht, warnings, warnings,
      validUpTo_ofBytes_eq p q]
  case verbose => exact fun flag => ⟨result_verbose s flag, result_verbose t flag⟩

theorem alike_of_error {f g : Hex.Fault} (hp : Policy.parse s.policy = .ok p)
    (hq : Policy.parse t.policy = .ok q) (hs : Hex.decode s.input = .error f)
    (ht : Hex.decode t.input = .error g) (hfault : Hex.SameFault s.input t.input f g) : Alike s t := by
  have hsrun := ofSettings_of_malformedHex hp hs
  have htrun := ofSettings_of_malformedHex hq ht
  have hsfail : ∀ output, (ofSettings s).result ≠ .ok output := by
    intro output h
    rw [hsrun] at h
    cases h
  have htfail : ∀ output, (ofSettings t).result ≠ .ok output := by
    intro output h
    rw [htrun] at h
    cases h
  constructor
  case success =>
    constructor
    · rintro ⟨output, h⟩
      exact absurd h (hsfail output)
    · rintro ⟨output, h⟩
      exact absurd h (htfail output)
  case failure =>
    intro a b ha hb
    rw [hsrun] at ha
    rw [htrun] at hb
    exact ⟨f, g, (Except.error.inj ha).symm, (Except.error.inj hb).symm, hfault⟩
  case same_output => exact fun _ _ output h => absurd h (hsfail output)
  case same_line => exact fun _ _ a _ h => absurd h (hsfail a)
  case same_members => exact fun _ _ a _ h => absurd h (hsfail a)
  case same_warnings =>
    intro env henv
    rw [warnLines_of_malformedHex henv hp hs, warnLines_of_malformedHex henv hq ht]
  case verbose => exact fun flag => ⟨result_verbose s flag, result_verbose t flag⟩

/-- Runs with known policies whose hex texts differ in blanks around them and in the case of letters
are alike, whatever they are asked for. -/
theorem alike_of_canonical_eq (hp : Policy.parse s.policy = .ok p)
    (hq : Policy.parse t.policy = .ok q)
    (h : Hex.canonical s.input = Hex.canonical t.input) : Alike s t := by
  rcases Hex.decode_of_canonical_eq h with ⟨bs, hs, ht⟩ | ⟨f, g, hs, ht, hfault⟩
  · exact alike_of_ok hp hq hs ht
  · exact alike_of_error hp hq hs ht hfault

/-- A fault behind two blanks instead of one, and a rendering that differs while the bytes do not. -/
theorem alike_of_blanks_and_capitals :
    Policy.parse "ignore" = .ok .ignore ∧ Policy.parse "Replace" = .ok .replace ∧
      (Hex.canonical " 4fG1" = Hex.canonical "\t\n4Fg1\r" ∧
        Alike { hex := some " 4fG1", policy := "ignore" }
          { hex := some "\t\n4Fg1\r", policy := "Replace", verbose := true, format := "json" }) ∧
      Hex.canonical " 4fc3" = Hex.canonical "4FC3\n" ∧
        (ofSettings { hex := some " 4fc3", policy := "ignore" }).result =
          .ok "Decoded Text (UTF-8): O\nBinary Data: b\"O\\xc3\"\n" ∧
        (ofSettings { hex := some "4FC3\n", policy := "Replace", verbose := true }).result =
          .ok "Decoded Text (UTF-8): O\uFFFD\nBinary Data: b\"O\\xc3\"\n" ∧
        Alike { hex := some " 4fc3", policy := "ignore" }
          { hex := some "4FC3\n", policy := "Replace", verbose := true } := by
  have hp : Policy.parse "ignore" = .ok .ignore := by rfl
  have hq : Policy.parse "Replace" = .ok .replace := by rfl
  have hfault : Hex.canonical " 4fG1" = Hex.canonical "\t\n4Fg1\r" := by rfl
  have hbytes : Hex.canonical " 4fc3" = Hex.canonical "4FC3\n" := by rfl
  refine ⟨hp, hq, ⟨hfault, alike_of_canonical_eq hp hq hfault⟩, hbytes, ?_, ?_,
    alike_of_canonical_eq hp hq hbytes⟩
  · decide +kernel
  · decide +kernel

end ByteInspector.Inspection
