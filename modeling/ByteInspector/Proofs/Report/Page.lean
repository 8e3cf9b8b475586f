import ByteInspector.Proofs.Report.Reading

/-! # The report as lines of text

The rendered text stands in the report as it is, with its own line feeds and with whatever imitates a
label. The last line still belongs to the bytes, since no line feed stands in a literal: read from there,
a report has one text and one sequence of bytes. It has two lines where the text has no line feed.
-/
namespace ByteInspector

namespace Text

/-- The lines of a text, each of them ended by a line feed. -/
inductive Lines : List Char → List (List Char) → Prop where
  | nil : Lines [] []
  | cons {line rest : List Char} {lines : List (List Char)} :
      '\n' ∉ line → Lines rest lines → Lines (line ++ '\n' :: rest) (line :: lines)

variable {cs ds : List Char} {lines others : List (List Char)}

theorem Lines.append (h : Lines cs lines) (hds : Lines ds others) :
    Lines (cs ++ ds) (lines ++ others) := by
  induction h with
  | nil => exact hds
  | cons hline _ ih =>
    rw [List.append_assoc, List.cons_append, List.cons_append]
    exact .cons hline ih

theorem eq_of_append_lineFeed {line other : List Char} (hline : '\n' ∉ line) (hother : '\n' ∉ other)
    (h : line ++ '\n' :: cs = other ++ '\n' :: ds) : line = other ∧ cs = ds := by
  induction line generalizing other with
  | nil =>
    cases other with
    | nil => exact ⟨rfl, (List.cons.inj h).2⟩
    | cons d other => exact absurd ((List.cons.inj h).1 ▸ List.mem_cons_self) hother
  | cons c line ih =>
    cases other with
    | nil => exact absurd ((List.cons.inj h).1 ▸ List.mem_cons_self) hline
    | cons d other =>
      obtain ⟨rfl, htail⟩ := List.cons.inj h
      obtain ⟨rfl, hrest⟩ :=
        ih (mt (List.mem_cons_of_mem _) hline) (mt (List.mem_cons_of_mem _) hother) htail
      exact ⟨rfl, hrest⟩

/-- A text is taken apart into lines in one way. -/
theorem Lines.eq (h : Lines cs lines) (hothers : Lines cs others) : lines = others := by
  induction h generalizing others with
  | nil =>
    generalize hcs : ([] : List Char) = cs at hothers
    cases hothers with
    | nil => rfl
    | cons => simp at hcs
  | @cons line rest lines hline _ ih =>
    generalize hcs : line ++ '\n' :: rest = cs at hothers
    cases hothers with
    | nil => simp at hcs
    | cons hline' hrest' =>
      obtain ⟨rfl, rfl⟩ := eq_of_append_lineFeed hline hline' hcs
      rw [ih hrest']

theorem Lines.count_lineFeed (h : Lines cs lines) : cs.count '\n' = lines.length := by
  induction h with
  | nil => rfl
  | cons hline _ ih =>
    rw [List.count_append, List.count_cons_self, List.count_eq_zero_of_not_mem hline, ih,
      List.length_cons, Nat.zero_add]

theorem lines_singleton (h : '\n' ∉ cs) : Lines (cs ++ ['\n']) [cs] := .cons h .nil

theorem exists_lines (cs : List Char) : ∃ lines, Lines (cs ++ ['\n']) lines := by
  induction cs with
  | nil => exact ⟨[[]], lines_singleton List.not_mem_nil⟩
  | cons c cs ih =>
    obtain ⟨lines, hlines⟩ := ih
    by_cases hc : c = '\n'
    · subst hc
      exact ⟨[] :: lines, .cons List.not_mem_nil hlines⟩
    · generalize hrest : cs ++ ['\n'] = rest at hlines
      cases hlines with
      | nil => simp at hrest
      | @cons line rest lines hline hlines =>
        refine ⟨(c :: line) :: lines, ?_⟩
        rw [List.cons_append, hrest, ← List.cons_append]
        exact .cons (by simp [hline, Ne.symm hc]) hlines

end Text

namespace Report

/-- In front of the line of the bytes stand all lines of the text. -/
theorem exists_lines_asText (bs : Bytes) (r : Rendering) :
    ∃ front, Text.Lines (asText bs r).toList (front ++ [binaryLine bs]) := by
  obtain ⟨front, hfront⟩ := Text.exists_lines ((textLabel ++ " ").toList ++ r.text.toList)
  have hwhole := hfront.append (Text.lines_singleton (lineFeed_not_mem_binaryLine bs))
  rw [List.append_assoc, List.singleton_append, ← toList_asText] at hwhole
  exact ⟨front, hwhole⟩

theorem count_lineFeed_asText (bs : Bytes) (r : Rendering) :
    (asText bs r).toList.count '\n' = r.text.toList.count '\n' + 2 := by
  have hlabel : (textLabel ++ " ").toList.count '\n' = 0 := by decide
  have hline := List.count_eq_zero_of_not_mem (lineFeed_not_mem_binaryLine bs)
  rw [toList_asText, List.count_append, List.count_append, List.count_cons_self, List.count_append,
    hlabel, hline, List.count_singleton_self]
  omega

/-- Where the text stays on one line, it has the first line and the bytes have the second. -/
theorem lines_asText {r : Rendering} (bs : Bytes) (h : '\n' ∉ r.text.toList) :
    Text.Lines (asText bs r).toList [(textLabel ++ " ").toList ++ r.text.toList, binaryLine bs] := by
  have hlabel : '\n' ∉ (textLabel ++ " ").toList := by decide
  have htext : '\n' ∉ (textLabel ++ " ").toList ++ r.text.toList := by
    rw [List.mem_append]
    exact not_or_intro hlabel h
  rw [toList_asText]
  exact .cons htext (Text.lines_singleton (lineFeed_not_mem_binaryLine bs))

/-- A report is split at its last line in one way, and its front in one way by the label. -/
theorem split_asText {bs : Bytes} {r : Rendering} {shown last : List Char} (hlast : '\n' ∉ last)
    (h : (asText bs r).toList =
      ((textLabel ++ " ").toList ++ shown) ++ '\n' :: (last ++ ['\n'])) :
    shown = r.text.toList ∧ last = binaryLine bs := by
  have hsplit := splitLastLine?_append (lineFeed_not_mem_binaryLine bs)
    ((textLabel ++ " ").toList ++ r.text.toList)
  rw [← toList_asText, h, splitLastLine?_append hlast] at hsplit
  obtain ⟨hfront, rfl⟩ := Prod.mk.inj (Option.some.inj hsplit)
  exact ⟨List.append_cancel_left (List.append_cancel_right hfront), rfl⟩

structure IsPageOf (bs : Bytes) (r : Rendering) (page : String) : Prop where
  exists_lines : ∃ lines, Text.Lines page.toList lines
  last_line : ∀ lines, Text.Lines page.toList lines →
    lines.getLast? = some ("Binary Data: ".toList ++ (Literal.byteString bs).toList)
  /-- Between the label and the line feed before the last line stands the text, and only it. -/
  between : ∀ shown last, '\n' ∉ last →
    (page.toList = ("Decoded Text (UTF-8): ".toList ++ shown) ++ '\n' :: (last ++ ['\n']) ↔
      shown = r.text.toList ∧ last = "Binary Data: ".toList ++ (Literal.byteString bs).toList)
  read : readText? page = some (r.text, bs)
  unique : ∀ other s, ReportFormat.text.report other s = page → other = bs ∧ s.text = r.text
  /-- Two lines, the text and the bytes, where the text is one line; more where it is not. -/
  two_lines : Text.Lines page.toList ["Decoded Text (UTF-8): ".toList ++ r.text.toList,
    "Binary Data: ".toList ++ (Literal.byteString bs).toList] ↔ '\n' ∉ r.text.toList
  length_lines : ∀ lines, Text.Lines page.toList lines →
    lines.length = r.text.toList.count '\n' + 2

/-- Any bytes with any rendering are put in lines so that both are told from them. -/
theorem isPageOf_report_text (bs : Bytes) (r : Rendering) :
    IsPageOf bs r (ReportFormat.text.report bs r) where
  exists_lines := by
    obtain ⟨front, hfront⟩ := exists_lines_asText bs r
    exact ⟨_, hfront⟩
  last_line := by
    intro lines hlines
    obtain ⟨front, hfront⟩ := exists_lines_asText bs r
    rw [hlines.eq hfront, List.getLast?_concat]
    rfl
  between := by
    intro shown last hlast
    constructor
    · exact split_asText hlast
    · rintro ⟨rfl, rfl⟩
      exact toList_asText bs r
  read := readText?_asText bs r
  unique := by
    intro other s h
    have hread := readText?_asText other s
    rw [show asText other s = asText bs r from h, readText?_asText bs r] at hread
    obtain ⟨htext, hbytes⟩ := Prod.mk.inj (Option.some.inj hread)
    exact ⟨hbytes.symm, htext.symm⟩
  two_lines := by
    constructor
    · intro h
      have hcount := h.count_lineFeed
      rw [ReportFormat.report, count_lineFeed_asText] at hcount
      exact List.count_eq_zero.mp (Nat.add_right_cancel hcount)
    · exact lines_asText bs
  length_lines := by
    intro lines hlines
    rw [← hlines.count_lineFeed, ReportFormat.report, count_lineFeed_asText]

/-- A text that imitates the line of the bytes is told from that line. -/
example : readText? (asText [0x41] ⟨.ignore, "a\nBinary Data: b\"B\"", none⟩) =
    some ("a\nBinary Data: b\"B\"", [0x41]) := by
  decide

end Report

end ByteInspector
