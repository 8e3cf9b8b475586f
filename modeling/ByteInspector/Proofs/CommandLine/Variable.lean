import ByteInspector.Proofs.CommandLine.Acceptance
import ByteInspector.Proofs.Rendering.Strict

/-! # The variable that stands in for the hex text

The variable is looked at only where the arguments are accepted and hold no hex text, and its value has to
be a text only then. It changes nothing else about a parse: a fault of the arguments is the same fault,
said in the same words, whatever the variable holds.
-/
namespace ByteInspector

namespace RawText

variable {text : String} {bs : Bytes}

/-- Bytes are a text as a value exactly where they encode it. -/
theorem text?_ofBytes_eq_some_iff : (ofBytes bs).text? = some text ↔ Utf8.encode text = bs := by
  rw [text?_eq_some_iff]
  constructor
  · intro h
    have hencode := Utf8.encode_eq_of_pieces h
    rwa [String.ofList_toList] at hencode
  · rintro rfl
    exact Utf8.pieces_encode text

theorem text?_ofBytes_eq_none (h : ¬ Utf8.WellFormed bs) : (ofBytes bs).text? = none := by
  cases htext : (ofBytes bs).text? with
  | none => rfl
  | some text =>
    exact absurd (Utf8.wellFormed_iff_exists_encode.mpr ⟨text, text?_ofBytes_eq_some_iff.mp htext⟩) h

end RawText

namespace CommandLine

/-- The settings with the variable's value in the place of a hex text that was not given. -/
def fillIn (value : RawText) (s : Settings) : Except Stop Settings :=
  match s.hex with
  | some _ => .ok s
  | none =>
    match value.text? with
    | some text => .ok { s with hex := some text }
    | none => .error (.fault .malformedText)

variable {arguments : List RawText} {value : RawText} {s : Settings} {stop : Stop}

/-- The arguments are read as without the variable, and only then its value is looked at. -/
theorem parse_some (arguments : List RawText) (value : RawText) :
    parse arguments (some value) = parse arguments none >>= fillIn value := by
  unfold parse
  cases Scan.arguments {} arguments with
  | error stop => rfl
  | ok scan =>
    rw [bind_ok, bind_ok]
    cases scan.settled with
    | error stop => rfl
    | ok t =>
      rw [bind_ok, bind_ok]
      cases hhex : t.settings.hex with
      | some hex => simp only [bind_ok, fillIn, hhex]
      | none =>
        cases htext : value.text? with
        | none => simp only [bind_ok, fillIn, hhex, htext]
        | some text => simp only [bind_ok, fillIn, hhex, htext]

theorem parse_some_of_ok (h : parse arguments none = .ok s) :
    parse arguments (some value) = fillIn value s := by
  rw [parse_some, h, bind_ok]

theorem parse_some_of_error (h : parse arguments none = .error stop) :
    parse arguments (some value) = .error stop := by
  rw [parse_some, h]
  rfl

theorem fillIn_of_given (h : s.hex ≠ none) : fillIn value s = .ok s := by
  obtain ⟨hex, hhex⟩ := Option.ne_none_iff_exists'.mp h
  simp only [fillIn, hhex]

theorem fillIn_of_text {text : String} (h : s.hex = none) (htext : value.text? = some text) :
    fillIn value s = .ok { s with hex := some text } := by
  simp only [fillIn, h, htext]

theorem fillIn_of_malformed (h : s.hex = none) (htext : value.text? = none) :
    fillIn value s = .error (.fault .malformedText) := by
  simp only [fillIn, h, htext]

/-- Only help shows the variable. -/
theorem text_eq_of_ne_help (h : ∀ long, stop ≠ .help long) (plain : String → String)
    (hexVariable : Option RawText) : stop.text plain hexVariable = stop.text plain none := by
  cases stop with
  | fault fault => rfl
  | help long => exact absurd rfl (h long)
  | version => rfl

theorem hex_foldl_apply {items : List Item} (h : ∀ hex, Item.hex hex ∉ items) (s : Settings) :
    (items.foldl Item.apply s).hex = s.hex := by
  induction items generalizing s with
  | nil => rfl
  | cons item items ih =>
    rw [List.foldl_cons, ih fun hex hmem => h hex (List.mem_cons_of_mem _ hmem)]
    cases item with
    | hex value => exact absurd List.mem_cons_self (h value)
    | policy value => rfl
    | format value => rfl
    | verbose => rfl

/-- What is said once stands in the settings, wherever it is said. -/
theorem hex_settingsOf {items : List Item} {hex : String} (hitems : Distinct items)
    (h : Item.hex hex ∈ items) : (settingsOf items).hex = some hex := by
  obtain ⟨before, after, rfl⟩ := List.append_of_mem h
  have hafter : ∀ other, Item.hex other ∉ after := by
    intro other hother
    have hnodup := hitems
    rw [Distinct, List.map_append, List.map_cons] at hnodup
    have hnot := (List.nodup_cons.mp (List.nodup_append.mp hnodup).2.1).1
    exact hnot (List.mem_map.mpr ⟨_, hother, rfl⟩)
  rw [settingsOf_append, List.foldl_cons, hex_foldl_apply hafter, Item.apply]

structure FallsBack (arguments : List RawText) (bs : Bytes) : Prop where
  given : ∀ s, parse arguments none = .ok s → s.hex ≠ none →
    parse arguments (some (.ofBytes bs)) = .ok s
  filled : ∀ s text, parse arguments none = .ok s → s.hex = none → Utf8.encode text = bs →
    parse arguments (some (.ofBytes bs)) = .ok { s with hex := some text }
  malformed : ∀ s, parse arguments none = .ok s → s.hex = none → ¬ Utf8.WellFormed bs →
    parse arguments (some (.ofBytes bs)) = .error (.fault .malformedText)
  /-- The parse ends in the same way, so with the same exit code, and says the same. -/
  failed : ∀ stop, parse arguments none = .error stop → (∀ long, stop ≠ .help long) →
    parse arguments (some (.ofBytes bs)) = .error stop ∧
      stop.message (some (.ofBytes bs)) = stop.message none ∧
      stop.printed (some (.ofBytes bs)) = stop.printed none
  /-- The input is what was given, or else the value, also an empty one. -/
  input : ∀ t, parse arguments (some (.ofBytes bs)) = .ok t →
    ∃ s, parse arguments none = .ok s ∧
      (s.hex = some t.input ∨ s.hex = none ∧ Utf8.encode t.input = bs)
  input_unset : ∀ s, parse arguments none = .ok s → s.hex = none → s.input = emptySnapshotHex
  /-- It is given by the items of the command line, in any of their spellings and at any place. -/
  input_said : ∀ lines items, arguments = lines.map RawText.ofString → Derives lines items →
    Distinct items → ∀ hex, Item.hex hex ∈ items →
      ∃ t, parse arguments (some (.ofBytes bs)) = .ok t ∧ t.input = hex
  input_unsaid : ∀ lines items, arguments = lines.map RawText.ofString → Derives lines items →
    Distinct items → (∀ hex, Item.hex hex ∉ items) → ∀ text, Utf8.encode text = bs →
      ∃ t, parse arguments (some (.ofBytes bs)) = .ok t ∧ t.input = text

theorem parse_of_derives {lines : List String} {items : List Item} (h : Derives lines items)
    (hitems : Distinct items) : parse (lines.map RawText.ofString) none = .ok (settingsOf items) :=
  (parse_eq_ok_iff_of_derives h _).mpr ⟨hitems, rfl⟩

/-- The variable counts in one situation, where arguments that are accepted hold no hex text. -/
theorem fallsBack_parse (arguments : List RawText) (bs : Bytes) : FallsBack arguments bs where
  given := by
    intro s hs hhex
    rw [parse_some_of_ok hs, fillIn_of_given hhex]
  filled := by
    intro s text hs hhex htext
    rw [parse_some_of_ok hs, fillIn_of_text hhex (RawText.text?_ofBytes_eq_some_iff.mpr htext)]
  malformed := by
    intro s hs hhex hbs
    rw [parse_some_of_ok hs, fillIn_of_malformed hhex (RawText.text?_ofBytes_eq_none hbs)]
  failed := by
    intro stop hstop hhelp
    exact ⟨parse_some_of_error hstop, text_eq_of_ne_help hhelp _ _, text_eq_of_ne_help hhelp _ _⟩
  input := by
    intro t ht
    cases hs : parse arguments none with
    | error stop =>
      rw [parse_some_of_error hs] at ht
      cases ht
    | ok s =>
      refine ⟨s, rfl, ?_⟩
      rw [parse_some_of_ok hs] at ht
      cases hhex : s.hex with
      | some hex =>
        rw [fillIn_of_given (by rw [hhex]; exact Option.some_ne_none hex)] at ht
        obtain rfl := Except.ok.inj ht
        exact Or.inl (by rw [Settings.input, hhex, Option.getD_some])
      | none =>
        cases htext : (RawText.ofBytes bs).text? with
        | none =>
          rw [fillIn_of_malformed hhex htext] at ht
          cases ht
        | some text =>
          rw [fillIn_of_text hhex htext] at ht
          obtain rfl := Except.ok.inj ht
          exact Or.inr ⟨rfl, RawText.text?_ofBytes_eq_some_iff.mp htext⟩
  input_unset := by
    intro s _ hhex
    rw [Settings.input, hhex, Option.getD_none]
  input_said := by
    rintro lines items rfl hderives hitems hex hmem
    have hhex := hex_settingsOf hitems hmem
    refine ⟨settingsOf items, ?_, by rw [Settings.input, hhex, Option.getD_some]⟩
    rw [parse_some_of_ok (parse_of_derives hderives hitems),
      fillIn_of_given (by rw [hhex]; exact Option.some_ne_none hex)]
  input_unsaid := by
    rintro lines items rfl hderives hitems hnone text htext
    refine ⟨{ settingsOf items with hex := some text }, ?_, rfl⟩
    rw [parse_some_of_ok (parse_of_derives hderives hitems),
      fillIn_of_text (hex_foldl_apply hnone _) (RawText.text?_ofBytes_eq_some_iff.mpr htext)]

end CommandLine

end ByteInspector
