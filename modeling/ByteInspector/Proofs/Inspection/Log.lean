import ByteInspector.Program

/-! # The log of an inspection

What an inspection gives is decided by the policy and the bytes. Its log is at most two lines, one for
the start and one for bytes that are not text.
-/
namespace ByteInspector

structure Environment.IsPlain (env : Environment) : Prop where
  unfiltered : env.logFilter = none
  colourless : env.coloured = false

namespace Log

theorem Filter.enables_ofLevel (level : Level) (e : Event) :
    (ofLevel level).enables e = decide (e.level.number ≤ level.number) := rfl

/-- Verbose or not, a warning is let through. -/
theorem Filter.enables_choose_of_warn {e : Event} (h : e.level = .warn) (verbose : Bool) :
    (choose none verbose).enables e = true := by
  have hlevel : Level.warn.number ≤ (Level.default verbose).number := by
    cases verbose <;> decide
  simpa [choose, enables_ofLevel, h] using hlevel

def isWarnLine (line : String) : Bool := Level.warn.label.toList.isPrefixOf line.toList

theorem isWarnLine_plainLine (e : Event) : isWarnLine e.plainLine = decide (e.level = .warn) := by
  obtain ⟨level, message, fields⟩ := e
  cases level <;> simp [isWarnLine, Event.plainLine, Level.label, List.isPrefixOf]

end Log

namespace Inspection

/-- With a policy and bytes an inspection succeeds. -/
theorem ofSettings_of_ok {s : Settings} {policy : Policy} {bs : Bytes}
    (hpolicy : Policy.parse s.policy = .ok policy) (hbytes : Hex.decode s.input = .ok bs) :
    ofSettings s =
      ⟨.ok ((ReportFormat.ofName s.format).report bs (Rendering.ofBytes policy bs)),
        .decoding (Utf8.width s.input.toList) policy ::
          warnings (Rendering.ofBytes policy bs) bs.length⟩ := by
  simp only [ofSettings, hpolicy, hbytes, ofDecoded, ReportFormat.write_eq_ok]
  rfl

/-- Only with both does it succeed. -/
theorem exists_of_result_eq_ok {s : Settings} {output : String}
    (h : (ofSettings s).result = .ok output) :
    ∃ policy bs, Policy.parse s.policy = .ok policy ∧ Hex.decode s.input = .ok bs := by
  unfold ofSettings at h
  cases hpolicy : Policy.parse s.policy with
  | error fault => simp [hpolicy] at h
  | ok policy =>
    cases hbytes : Hex.decode s.input with
    | error fault => simp [hpolicy, hbytes, ofDecoded] at h
    | ok bs => exact ⟨policy, bs, rfl, rfl⟩

theorem level_of_mem_warnings {r : Rendering} {length : Nat} {e : Log.Event}
    (h : e ∈ warnings r length) : e.level = .warn := by
  unfold warnings at h
  split at h
  · cases h
  · obtain rfl := List.mem_singleton.mp h
    rfl

end Inspection

namespace Plan

variable {env : Environment}

theorem log_ofSettings (henv : env.IsPlain) (s : Settings) : (ofSettings env s).log =
    ((Inspection.ofSettings s).events.filter (Log.Filter.choose none s.verbose).enables).map
      Log.Event.plainLine := by
  simp only [ofSettings, henv.unfiltered, henv.colourless, Bool.false_eq_true, if_false]

def warnLines (plan : Plan) : List String := plan.log.filter Log.isWarnLine

theorem warnLines_ofSettings (henv : env.IsPlain) (s : Settings) : (ofSettings env s).warnLines =
    ((Inspection.ofSettings s).events.filter (·.level = .warn)).map Log.Event.plainLine := by
  rw [warnLines, log_ofSettings henv, List.filter_map, List.filter_filter]
  congr 1
  apply List.filter_congr
  intro e _
  rw [Function.comp_apply, Log.isWarnLine_plainLine]
  by_cases he : e.level = .warn
  · simp [he, Log.Filter.enables_choose_of_warn he]
  · simp [he]

theorem warnLines_of_ok (henv : env.IsPlain) {s : Settings} {policy : Policy} {bs : Bytes}
    (hpolicy : Policy.parse s.policy = .ok policy) (hbytes : Hex.decode s.input = .ok bs) :
    (ofSettings env s).warnLines =
      (Inspection.warnings (Rendering.ofBytes policy bs) bs.length).map Log.Event.plainLine := by
  have hall : ∀ e ∈ Inspection.warnings (Rendering.ofBytes policy bs) bs.length,
      decide (e.level = .warn) = true := by
    intro e he
    exact decide_eq_true (Inspection.level_of_mem_warnings he)
  rw [warnLines_ofSettings henv, Inspection.ofSettings_of_ok hpolicy hbytes,
    List.filter_cons_of_neg (by exact Bool.false_ne_true), List.filter_eq_self.mpr hall]

end Plan

end ByteInspector
