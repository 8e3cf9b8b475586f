import ByteInspector.Proofs.Hex.RoundTrip
import ByteInspector.Proofs.Inspection.Log
import ByteInspector.Proofs.Rendering.Strict
import ByteInspector.Proofs.Report.Reading

/-! # Outputs and log agree

The two reports of a run and its warnings tell of the same bytes and of the same text. Each is read by
itself: the hex digits, the literal and the text in front of it give back what was inspected.
-/
namespace ByteInspector.Inspection

/-- A run that succeeds: its bytes, its reports in the two formats, whatever name asks for them, and
its warnings. -/
structure Outputs (s : Settings) (policy : Policy) (bs : Bytes) (asText asJson : String)
    (warned : List String) : Prop where
  policy_parsed : Policy.parse s.policy = .ok policy
  input_decoded : Hex.decode s.input = .ok bs
  result : ∀ name, (ofSettings { s with format := name }).result =
    .ok (match ReportFormat.ofName name with | .text => asText | .json => asJson)
  warnLines : ∀ env : Environment, env.IsPlain → ∀ name,
    (Plan.ofSettings env { s with format := name }).warnLines = warned

structure Agreement (bs : Bytes) (r : Rendering) (asText asJson : String)
    (warned : List String) : Prop where
  text : Report.readText? asText = some (r.text, bs)
  json : ∃ hex raw,
    Json.Object.read? asJson =
      some [("length", .number bs.length), ("hex", .string hex), ("policy", .string r.policy.name),
        ("text", .string r.text), ("valid_up_to", .ofNat? r.validUpTo), ("raw", .string raw)] ∧
    Hex.decode hex = .ok bs ∧ Literal.readByteString raw.toList = some (bs, [])
  lossless : r.validUpTo = none ↔ Utf8.encode r.text = bs
  silent : r.validUpTo = none ↔ warned = []
  offset : ∀ n, r.validUpTo = some n → warned =
    [" WARN some parts could not be decoded as UTF-8 text offset=" ++ Nat.repr n ++ " len=" ++
      Nat.repr bs.length]

theorem plainLine_malformed (offset length : Nat) :
    (Log.Event.malformed offset length).plainLine =
      " WARN some parts could not be decoded as UTF-8 text offset=" ++ Nat.repr offset ++ " len=" ++
        Nat.repr length := by
  apply String.toList_inj.mp
  simp [Log.Event.plainLine, Log.Event.malformed, Log.Level.label, String.join]

theorem agreement_ofBytes (policy : Policy) (bs : Bytes) :
    Agreement bs (Rendering.ofBytes policy bs)
      (Report.asText bs (Rendering.ofBytes policy bs)) (Report.asJson bs (Rendering.ofBytes policy bs))
      ((warnings (Rendering.ofBytes policy bs) bs.length).map Log.Event.plainLine) where
  text := Report.readText?_asText bs _
  json := ⟨Hex.encode bs, Literal.byteString bs, Report.read?_asJson bs _, Hex.decode_encode bs,
    Literal.readByteString_byteString bs⟩
  lossless := Rendering.validUpTo_ofBytes_eq_none_iff
  silent := by
    cases hoffset : (Rendering.ofBytes policy bs).validUpTo with
    | none => simp [warnings, hoffset]
    | some n => simp [warnings, hoffset]
  offset := by
    intro n hn
    simp only [warnings, hn, List.map_cons, List.map_nil, plainLine_malformed]

theorem outputs_of_ok {s : Settings} {policy : Policy} {bs : Bytes}
    (hpolicy : Policy.parse s.policy = .ok policy) (hbytes : Hex.decode s.input = .ok bs) :
    Outputs s policy bs
      (Report.asText bs (Rendering.ofBytes policy bs)) (Report.asJson bs (Rendering.ofBytes policy bs))
      ((warnings (Rendering.ofBytes policy bs) bs.length).map Log.Event.plainLine) where
  policy_parsed := hpolicy
  input_decoded := hbytes
  result := by
    intro name
    rw [ofSettings_of_ok (s := { s with format := name }) hpolicy hbytes]
    rfl
  warnLines := by
    intro env henv name
    exact Plan.warnLines_of_ok henv (s := { s with format := name }) hpolicy hbytes

/-- Whatever a successful run was asked for, its two reports and its warnings agree, and each report
gives back the bytes and the text. -/
theorem outputs_agree_of_result_eq_ok {s : Settings} {output : String}
    (h : (ofSettings s).result = .ok output) :
    ∃ policy bs asText asJson warned, Outputs s policy bs asText asJson warned ∧
      Agreement bs (Rendering.ofBytes policy bs) asText asJson warned := by
  obtain ⟨policy, bs, hpolicy, hbytes⟩ := exists_of_result_eq_ok h
  exact ⟨policy, bs, _, _, _, outputs_of_ok hpolicy hbytes, agreement_ofBytes policy bs⟩

theorem outputs_agree_of_malformed_byte :
    (ofSettings { hex := some "ff41", policy := "replace" }).result =
        .ok "Decoded Text (UTF-8): \uFFFDA\nBinary Data: b\"\\xffA\"\n" ∧
      ∃ policy bs asText asJson warned,
        Outputs { hex := some "ff41", policy := "replace" } policy bs asText asJson warned ∧
        Agreement bs (Rendering.ofBytes policy bs) asText asJson warned := by
  have h : (ofSettings { hex := some "ff41", policy := "replace" }).result =
      .ok "Decoded Text (UTF-8): \uFFFDA\nBinary Data: b\"\\xffA\"\n" := by
    have hpolicy : Policy.parse "replace" = .ok .replace := by rfl
    have hbytes : Hex.decode "ff41" = .ok [0xFF, 0x41] := by rfl
    have hpieces : Utf8.pieces [0xFF, 0x41] = [.malformed [0xFF], .scalar 'A'] := by
      have hsecond : Utf8.pieces [0x41] = [.scalar 'A'] := by
        rw [Utf8.pieces_cons]
        show _ :: Utf8.pieces [] = _
        rw [Utf8.pieces_nil]
        rfl
      rw [Utf8.pieces_cons]
      show _ :: Utf8.pieces [0x41] = _
      rw [hsecond]
      rfl
    have hshown : Policy.replace.decodeText [0xFF, 0x41] = "\uFFFDA" := by
      apply String.toList_inj.mp
      rw [Policy.toList_decodeText, hpieces]
      rfl
    rw [ofSettings_of_ok (s := { hex := some "ff41", policy := "replace" }) hpolicy hbytes,
      Rendering.ofBytes, hshown]
    rfl
  exact ⟨h, outputs_agree_of_result_eq_ok h⟩

end ByteInspector.Inspection
