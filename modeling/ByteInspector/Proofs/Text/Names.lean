import ByteInspector.Proofs.Hex.LetterCase
import ByteInspector.Report

/-! # Names in any case

Names are compared in lower case, and the lower case of a text is that of the whole standard: characters
beyond ASCII have one too, which may be longer or hang on the characters around. Only two of them reach into
ASCII. The Kelvin sign becomes a k, and the capital I with a dot becomes an i with a mark behind it. So an
ASCII name without a k is met by its own spellings in capital and small letters, and by nothing else.
-/
namespace ByteInspector

namespace Unicode

/-- There is one run in ASCII, that of its capitals. The run of the Kelvin sign leads into ASCII, and all
others lead from characters beyond it to characters beyond it. -/
theorem kinds_of_mem_lowerCaseRuns : ∀ run ∈ lowerCaseRuns,
    (run.first = 0x41 ∧ run.last = 0x5A ∧ run.shift = 32) ∨
    (run.first = 0x212A ∧ run.last = 0x212A) ∨
    (0x80 ≤ run.first ∧ 0x80 ≤ run.first + run.shift ∧ (run.last + run.shift < 0xD800 ∨
      0xDFFF < run.first + run.shift ∧ run.last + run.shift < 0x110000)) := by
  decide +kernel

theorem CaseRun.bounds_of_holds {run : CaseRun} {point : Nat} (h : run.holds point = true) :
    run.first ≤ point ∧ point ≤ run.last := by
  simp only [CaseRun.holds, Bool.and_eq_true, decide_eq_true_eq] at h
  exact h.1

theorem CaseRun.le_toNat_apply {run : CaseRun} (hrun : run ∈ lowerCaseRuns) {point : Nat}
    (h : run.holds point = true) (hpoint : 0x80 ≤ point) (hkelvin : point ≠ 0x212A) :
    0x80 ≤ (Char.ofNat (run.apply point)).toNat := by
  obtain ⟨hfirst, hlast⟩ := bounds_of_holds h
  rcases kinds_of_mem_lowerCaseRuns run hrun with ⟨-, hascii, -⟩ | hsign | ⟨-, hlow, hscalar⟩
  · omega
  · omega
  · have hvalid : (run.apply point).isValidChar := by
      unfold CaseRun.apply Nat.isValidChar
      omega
    have hvalue : (Char.ofNat (run.apply point)).toNat = run.apply point := Utf8.toNat_ofNat hvalid
    rw [hvalue, CaseRun.apply]
    omega

theorem toLower_of_capital {c : Char} (hlow : 0x41 ≤ c.toNat) (hhigh : c.toNat ≤ 0x5A) :
    c.toLower = Char.ofNat (c.toNat + 32) := by
  have table : ∀ k : Fin 26,
      (Char.ofNat (k.val + 0x41)).toLower = Char.ofNat (k.val + 0x41 + 32) := by decide
  have hc := table ⟨c.toNat - 0x41, by omega⟩
  rwa [Nat.sub_add_cancel hlow, Char.ofNat_toNat] at hc

theorem lowerCase_of_ascii {c : Char} (h : c.toNat < 0x80) : lowerCase c = [c.toLower] := by
  have hdotted : c.toNat ≠ 0x130 := by omega
  rw [lowerCase, if_neg hdotted]
  cases hfind : lowerCaseRuns.find? (·.holds c.toNat) with
  | none =>
    have hcapital := List.find?_eq_none.mp hfind ⟨0x41, 0x5A, 1, 32⟩ List.mem_cons_self
    simp only [CaseRun.holds, Nat.mod_one, beq_self_eq_true, Bool.and_true, Bool.and_eq_true,
      decide_eq_true_eq] at hcapital
    rw [Hex.toLower_of_not_capital (by omega)]
  | some run =>
    have hrun := List.mem_of_find?_eq_some hfind
    have hholds := List.find?_some (p := fun r : CaseRun => r.holds c.toNat) hfind
    obtain ⟨hfirst, hlast⟩ := CaseRun.bounds_of_holds hholds
    rcases kinds_of_mem_lowerCaseRuns run hrun with ⟨hlow, hhigh, hshift⟩ | hsign | ⟨hbeyond, -⟩
    · have hpoint : run.apply c.toNat = c.toNat + 32 := by
        rw [CaseRun.apply, hshift]
        omega
      rw [toLower_of_capital (by omega) (by omega)]
      simp only [hpoint]
    · omega
    · omega

theorem lowerCase_kelvin : lowerCase (Char.ofNat 0x212A) = ['k'] := by
  decide +kernel

/-- The lower case of a character beyond ASCII holds one beyond ASCII, but for the one that is a k. -/
theorem exists_mem_lowerCase {c : Char} (h : 0x80 ≤ c.toNat) :
    ∃ d ∈ lowerCase c, d = 'k' ∨ 0x80 ≤ d.toNat := by
  by_cases hkelvin : c.toNat = 0x212A
  · rw [← Char.ofNat_toNat c, hkelvin, lowerCase_kelvin]
    exact ⟨'k', List.mem_singleton_self 'k', Or.inl rfl⟩
  · unfold lowerCase
    split
    · exact ⟨Char.ofNat 0x307, List.mem_cons_of_mem _ (List.mem_singleton_self _), Or.inr (by decide)⟩
    split
    · next run hfind =>
      have hrun := List.mem_of_find?_eq_some hfind
      have hholds := List.find?_some (p := fun r : CaseRun => r.holds c.toNat) hfind
      exact ⟨_, List.mem_singleton_self _, Or.inr (CaseRun.le_toNat_apply hrun hholds h hkelvin)⟩
    · exact ⟨c, List.mem_singleton_self c, Or.inr h⟩

end Unicode

namespace Text

variable {cs : List Char} {text name : String}

theorem ne_sigma_of_ascii {c : Char} (h : c.toNat < 0x80) : c ≠ 'Σ' := by
  rintro rfl
  exact absurd h (by decide)

/-- In ASCII each letter is made small by itself. -/
theorem lowerAfter_of_ascii (h : ∀ c ∈ cs, c.toNat < 0x80) (before : List Char) :
    lowerAfter before cs = cs.map Char.toLower := by
  induction cs generalizing before with
  | nil => rfl
  | cons c cs ih =>
    have hc := h c List.mem_cons_self
    have hcs : ∀ d ∈ cs, d.toNat < 0x80 := fun d hd => h d (List.mem_cons_of_mem _ hd)
    rw [lowerAfter, if_neg (ne_sigma_of_ascii hc), Unicode.lowerCase_of_ascii hc, ih hcs,
      List.map_cons, List.singleton_append]

/-- A character beyond ASCII shows in the lower case of every text that holds it. -/
theorem exists_mem_lowerAfter {c : Char} (hmem : c ∈ cs) (h : 0x80 ≤ c.toNat) (before : List Char) :
    ∃ d ∈ lowerAfter before cs, d = 'k' ∨ 0x80 ≤ d.toNat := by
  induction cs generalizing before with
  | nil => cases hmem
  | cons x cs ih =>
    rw [lowerAfter]
    rcases List.mem_cons.mp hmem with rfl | hmem
    · split
      · refine ⟨_, List.mem_append_left _ (List.mem_singleton_self _), Or.inr ?_⟩
        split <;> decide
      · obtain ⟨d, hd, hshows⟩ := Unicode.exists_mem_lowerCase h
        exact ⟨d, List.mem_append_left _ hd, hshows⟩
    · obtain ⟨d, hd, hshows⟩ := ih hmem (x :: before)
      exact ⟨d, List.mem_append_right _ hd, hshows⟩

/-- Equal but for the case of the letters A to Z. -/
def SameLetters (s t : String) : Prop := s.toList.map Char.toLower = t.toList.map Char.toLower

instance (s t : String) : Decidable (SameLetters s t) := inferInstanceAs (Decidable (_ = _))

/-- A name in ASCII, in small letters and without a k. -/
def IsPlainName (name : String) : Prop :=
  ∀ d ∈ name.toList, d.toNat < 0x80 ∧ d.toLower = d ∧ d ≠ 'k'

instance (name : String) : Decidable (IsPlainName name) := List.decidableBAll _ name.toList

theorem IsPlainName.map_toLower (hname : IsPlainName name) :
    name.toList.map Char.toLower = name.toList := by
  have h : name.toList.map Char.toLower = name.toList.map id :=
    List.map_congr_left fun d hd => (hname d hd).2.1
  rw [h, List.map_id]

theorem SameLetters.ascii (h : SameLetters text name) (hname : IsPlainName name) :
    ∀ c ∈ text.toList, c.toNat < 0x80 := by
  intro c hc
  refine Nat.lt_of_not_le fun hbeyond => ?_
  have hmem : c ∈ text.toList.map Char.toLower :=
    List.mem_map.mpr ⟨c, hc, Hex.toLower_of_le hbeyond⟩
  rw [h, hname.map_toLower] at hmem
  have hlt := (hname c hmem).1
  omega

/-- What is a plain name in lower case is in ASCII itself. -/
theorem ascii_of_lowered_eq (hname : IsPlainName name) (h : lowered text = name) :
    ∀ c ∈ text.toList, c.toNat < 0x80 := by
  intro c hc
  refine Nat.lt_of_not_le fun hbeyond => ?_
  obtain ⟨d, hd, hshows⟩ := exists_mem_lowerAfter hc hbeyond []
  rw [← String.toList_ofList (l := lowerAfter [] text.toList), ← lowered, h] at hd
  rcases hshows with rfl | hshows
  · exact (hname 'k' hd).2.2 rfl
  · have hlt := (hname d hd).1
    omega

theorem lowered_of_ascii (h : ∀ c ∈ text.toList, c.toNat < 0x80) :
    (lowered text).toList = text.toList.map Char.toLower := by
  rw [lowered, String.toList_ofList, lowerAfter_of_ascii h]

/-- A plain name is the lower case of its own spellings only. -/
theorem lowered_eq_iff (hname : IsPlainName name) : lowered text = name ↔ SameLetters text name := by
  constructor
  · intro h
    have hletters := lowered_of_ascii (ascii_of_lowered_eq hname h)
    rw [h] at hletters
    rw [SameLetters, hname.map_toLower, hletters]
  · intro h
    apply String.toList_inj.mp
    rw [lowered_of_ascii (h.ascii hname), h, hname.map_toLower]

end Text

open Text

variable {text : String}

namespace Policy

theorem isPlainName_name (policy : Policy) : IsPlainName policy.name := by
  cases policy with
  | ignore => decide
  | replace => decide

theorem ofName?_eq_some_iff {policy : Policy} :
    ofName? text = some policy ↔ lowered text = policy.name := by
  unfold ofName?
  cases policy with
  | ignore => by_cases h : lowered text = "ignore" <;> simp [h, name]
  | replace =>
    by_cases h : lowered text = "ignore"
    · simp [h, name]
    · by_cases h' : lowered text = "replace" <;> simp [h, h', name]

theorem parse_eq_ok_iff_sameLetters {policy : Policy} :
    parse text = .ok policy ↔ SameLetters text policy.name := by
  rw [parse_eq_ok_iff, ofName?_eq_some_iff, lowered_eq_iff policy.isPlainName_name]

theorem eq_of_parse_eq_error {fault : RequestFault} (h : parse text = .error fault) :
    fault = .invalidArgument
      ("unknown decode policy: " ++ lowered text ++ " (expected ignore or replace)") := by
  unfold parse at h
  cases hname : ofName? text with
  | some policy =>
    rw [hname] at h
    cases h
  | none =>
    rw [hname] at h
    exact (Except.error.inj h).symm

end Policy

theorem ReportFormat.ofName_eq_json_iff : ofName text = .json ↔ SameLetters text "json" := by
  rw [← lowered_eq_iff (by decide), ofName]
  split <;> simp [*]

structure Names (text : String) (policy : Except RequestFault Policy) (format : ReportFormat) :
    Prop where
  ignore : policy = .ok .ignore ↔ SameLetters text "ignore"
  replace : policy = .ok .replace ↔ SameLetters text "replace"
  json : format = .json ↔ SameLetters text "json"
  otherwise : format = .text ↔ ¬ SameLetters text "json"
  /-- Outside ASCII there are no names. -/
  beyond : ∀ c ∈ text.toList, 0x80 ≤ c.toNat → (∀ p, policy ≠ .ok p) ∧ format ≠ .json
  refused : ¬ SameLetters text "ignore" → ¬ SameLetters text "replace" →
    policy = .error (.invalidArgument
      ("unknown decode policy: " ++ lowered text ++ " (expected ignore or replace)"))
  /-- A refusal quotes the text in the form in which it was compared. -/
  quoted : ∀ fault, policy = .error fault →
    ∃ before after, fault.message = before ++ lowered text ++ after

/-- Any text names what it spells but for the case of its ASCII letters, or names nothing. -/
theorem names_parse (text : String) : Names text (Policy.parse text) (ReportFormat.ofName text) where
  ignore := Policy.parse_eq_ok_iff_sameLetters
  replace := Policy.parse_eq_ok_iff_sameLetters
  json := ReportFormat.ofName_eq_json_iff
  otherwise := by
    rw [← ReportFormat.ofName_eq_json_iff]
    cases ReportFormat.ofName text <;> decide
  beyond := by
    intro c hc hbeyond
    constructor
    · intro policy hpolicy
      have hletters := Policy.parse_eq_ok_iff_sameLetters.mp hpolicy
      have hlt := hletters.ascii policy.isPlainName_name c hc
      omega
    · intro hformat
      have hletters := ReportFormat.ofName_eq_json_iff.mp hformat
      have hlt := hletters.ascii (by decide) c hc
      omega
  refused := by
    intro hignore hreplace
    cases hparse : Policy.parse text with
    | error fault => rw [Policy.eq_of_parse_eq_error hparse]
    | ok policy =>
      have hletters := Policy.parse_eq_ok_iff_sameLetters.mp hparse
      cases policy with
      | ignore => exact absurd hletters hignore
      | replace => exact absurd hletters hreplace
  quoted := by
    intro fault hfault
    obtain rfl := Policy.eq_of_parse_eq_error hfault
    refine ⟨"invalid argument: " ++ "unknown decode policy: ", " (expected ignore or replace)", ?_⟩
    unfold RequestFault.message
    simp only [String.append_assoc]

/-- The lower case of the dotted capital begins with an i, but does not end there. -/
example : Policy.ofName? "IgNoRe" = some .ignore ∧ Policy.ofName? "\u0130gnore" = none ∧
    lowered "\u0130gnore" = "i\u0307gnore" := by
  decide +kernel

end ByteInspector
