import Mathlib.Data.List.Basic
import ByteInspector.Json.RoundTrip
import ByteInspector.Proofs.Literal.UniqueReading
import ByteInspector.Report

/-! # Reports are read back

As text a report is read from its end: the literal takes the last line, since no line feed stands in a
literal, and all in front of that line is the rendering, with whatever lines it has.
-/
namespace ByteInspector.Report

/-- The lines before the last one with their line feeds, and the last one without. -/
def splitLastLine? (cs : List Char) : Option (List Char × List Char) :=
  match cs.reverse with
  | '\n' :: rest => some ((rest.dropWhile (· ≠ '\n')).reverse, (rest.takeWhile (· ≠ '\n')).reverse)
  | _ => none

def readText? (output : String) : Option (String × Bytes) :=
  match splitLastLine? output.toList with
  | none => none
  | some (front, last) =>
    match (textLabel ++ " ").toList.isPrefixOf? front, (binaryLabel ++ " ").toList.isPrefixOf? last with
    | some shown, some literal =>
      match Literal.readByteString literal with
      | some (bs, []) => some (String.ofList shown.dropLast, bs)
      | _ => none
    | _, _ => none

/-- Labels of which neither begins the other are told apart whatever follows them. -/
theorem isPrefixOf?_append_eq_none {xs ys : List Char} (hxs : xs.isPrefixOf ys = false)
    (hys : ys.isPrefixOf xs = false) (rest : List Char) : xs.isPrefixOf? (ys ++ rest) = none := by
  apply Option.eq_none_iff_forall_ne_some.mpr
  intro zs h
  have hprefix : xs <+: ys ++ rest := ⟨zs, List.isPrefixOf?_eq_some_iff_append_eq.mp h⟩
  rcases List.prefix_or_prefix_of_prefix hprefix (List.prefix_append ys rest) with h | h
  · rw [List.isPrefixOf_iff_prefix.mpr h] at hxs
    cases hxs
  · rw [List.isPrefixOf_iff_prefix.mpr h] at hys
    cases hys

theorem splitLastLine?_append {last : List Char} (hlast : '\n' ∉ last) (front : List Char) :
    splitLastLine? (front ++ '\n' :: (last ++ ['\n'])) = some (front ++ ['\n'], last) := by
  have hline : ∀ c ∈ last.reverse, decide (c ≠ '\n') = true := by
    intro c hc
    apply decide_eq_true
    rintro rfl
    exact hlast (List.mem_reverse.mp hc)
  have hreverse : (front ++ '\n' :: (last ++ ['\n'])).reverse =
      '\n' :: (last.reverse ++ '\n' :: front.reverse) := by
    simp
  unfold splitLastLine?
  rw [hreverse]
  simp only [List.takeWhile_append_of_pos hline, List.dropWhile_append_of_pos hline]
  rw [List.takeWhile_cons_of_neg (by simp), List.dropWhile_cons_of_neg (by simp)]
  simp

def binaryLine (bs : Bytes) : List Char :=
  (binaryLabel ++ " ").toList ++ (Literal.byteString bs).toList

theorem lineFeed_not_mem_binaryLine (bs : Bytes) : '\n' ∉ binaryLine bs := by
  intro h
  rcases List.mem_append.mp h with h | h
  · have label : '\n' ∉ (binaryLabel ++ " ").toList := by decide
    exact label h
  · rw [Literal.toList_byteString] at h
    have hprintable := (Literal.printable_of_mem_byteStringChars h).1
    exact absurd hprintable (by decide)

theorem toList_asText (bs : Bytes) (r : Rendering) :
    (asText bs r).toList =
      ((textLabel ++ " ").toList ++ r.text.toList) ++ '\n' :: (binaryLine bs ++ ['\n']) := by
  simp [asText, binaryLine]

/-- A report in text gives back the rendered text and the bytes, whatever the text is. -/
theorem readText?_asText (bs : Bytes) (r : Rendering) :
    readText? (asText bs r) = some (r.text, bs) := by
  have hshown : (textLabel ++ " ").toList.isPrefixOf?
      ((textLabel ++ " ").toList ++ (r.text.toList ++ ['\n'])) = some (r.text.toList ++ ['\n']) :=
    List.isPrefixOf?_eq_some_iff_append_eq.mpr rfl
  have hliteral : (binaryLabel ++ " ").toList.isPrefixOf? (binaryLine bs) =
      some (Literal.byteString bs).toList := List.isPrefixOf?_eq_some_iff_append_eq.mpr rfl
  unfold readText?
  rw [toList_asText, splitLastLine?_append (lineFeed_not_mem_binaryLine bs), List.append_assoc]
  simp only [hshown, hliteral, Literal.readByteString_byteString, List.dropLast_concat,
    String.ofList_toList]

/-- A report in JSON gives back its members. -/
theorem read?_asJson (bs : Bytes) (r : Rendering) :
    Json.Object.read? (asJson bs r) = some (members bs r) :=
  Json.read?_pretty_lineFeed _

/-- A failure in JSON gives back its message. -/
theorem read?_failure_json (f : Failure) :
    Json.Object.read? (ReportFormat.json.failure f) = some [("error", .string f.message)] :=
  Json.read?_pretty_lineFeed _

end ByteInspector.Report
