import ByteInspector.Proofs.Json.Lines
import ByteInspector.Proofs.Report.Reading

/-! # The report as a document

In JSON a report gives back its six members, whatever bytes and rendering it was made of. The rendering
need not belong to the bytes and its text may imitate a member or a line of the document: both bytes
and rendering are recovered from what is written.
-/
namespace ByteInspector

theorem Json.Value.ofNat?_eq_elim (n : Option Nat) : ofNat? n = n.elim .null .number := by
  cases n <;> rfl

theorem Json.Value.ofNat?_injective : Function.Injective ofNat? := by
  intro m n h
  cases m with
  | none =>
    cases n with
    | none => rfl
    | some k => cases h
  | some j =>
    cases n with
    | none => cases h
    | some k => exact congrArg some (Json.Value.number.inj h)

theorem Policy.name_injective : Function.Injective name := by
  intro p q h
  cases p with
  | ignore =>
    cases q with
    | ignore => rfl
    | replace => exact absurd h (by decide)
  | replace =>
    cases q with
    | ignore => exact absurd h (by decide)
    | replace => rfl

namespace Report

/-- The members tell which bytes and which rendering were reported. -/
theorem members_inj {bs other : Bytes} {r s : Rendering} (h : members bs r = members other s) :
    bs = other ∧ r = s := by
  simp only [members, List.cons.injEq, Prod.mk.injEq, Json.Value.string.injEq, true_and,
    and_true] at h
  obtain ⟨-, -, hpolicy, htext, hvalid, hraw⟩ := h
  obtain ⟨policy, text, validUpTo⟩ := r
  obtain ⟨policy', text', validUpTo'⟩ := s
  obtain rfl := Policy.name_injective hpolicy
  obtain rfl : text = text' := htext
  obtain rfl := Json.Value.ofNat?_injective hvalid
  exact ⟨Literal.byteString_injective hraw, rfl⟩

theorem lines_asJson (bs : Bytes) (r : Rendering) :
    (asJson bs r).toList = (members bs r).lines.flatMap (· ++ ['\n']) := by
  have hmembers : members bs r ≠ [] := List.cons_ne_nil _ _
  rw [Json.Object.flatMap_lines hmembers, asJson, Json.Object.pretty, String.toList_append,
    String.toList_ofList]
  rfl

structure IsDocumentOf (bs : Bytes) (r : Rendering) (document : String) : Prop where
  /-- Writing it does not fail. -/
  written : ReportFormat.json.write bs r = .ok document
  read : Json.Object.read? document = some
    [("length", .number bs.length), ("hex", .string (Hex.encode bs)),
      ("policy", .string r.policy.name), ("text", .string r.text),
      ("valid_up_to", r.validUpTo.elim .null .number), ("raw", .string (Literal.byteString bs))]
  /-- Eight lines, and no control character but the line feeds that end them. -/
  lines : ∃ lines : List (List Char), lines.length = 8 ∧
    document.toList = lines.flatMap (· ++ ['\n']) ∧ ∀ line ∈ lines, ∀ c ∈ line, 0x20 ≤ c.toNat
  unique : ∀ other s, ReportFormat.json.report other s = document → other = bs ∧ s = r

/-- Any bytes with any rendering are reported so that both are read back. -/
theorem isDocumentOf_report_json (bs : Bytes) (r : Rendering) :
    IsDocumentOf bs r (ReportFormat.json.report bs r) where
  written := ReportFormat.write_eq_ok .json bs r
  read := by
    rw [← Json.Value.ofNat?_eq_elim]
    exact read?_asJson bs r
  lines := ⟨(members bs r).lines, Json.Object.length_lines _, lines_asJson bs r,
    fun _ hline _ hc => Json.Object.visible_of_mem_lines hline hc⟩
  unique := by
    intro other s h
    have hread := read?_asJson other s
    rw [show asJson other s = asJson bs r from h, read?_asJson bs r] at hread
    obtain ⟨hbytes, hrendering⟩ := members_inj (Option.some.inj hread)
    exact ⟨hbytes.symm, hrendering.symm⟩

end Report

end ByteInspector
