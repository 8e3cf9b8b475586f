import ByteInspector.Json

/-! # Lines of a document

A document laid out on several lines has one for each member and one for each brace, whatever the
strings in it hold: every character below U+0020 is escaped, so the only line feeds are those of the
layout.
-/
namespace ByteInspector.Json

/-- Characters outside ASCII stand for themselves. -/
theorem escape_of_le {c : Char} (h : 0x80 ≤ c.toNat) : escape c = [c] := by
  have hne : ∀ d : Char, d.toNat < 0x80 → c ≠ d := by
    rintro d hd rfl
    omega
  rw [escape, if_neg (hne _ (by decide)), if_neg (hne _ (by decide)), if_neg (hne _ (by decide)),
    if_neg (hne _ (by decide)), if_neg (hne _ (by decide)), if_neg (hne _ (by decide)),
    if_neg (hne _ (by decide)), if_neg (by omega)]

theorem visible_of_mem_escape {c d : Char} (h : d ∈ escape c) : 0x20 ≤ d.toNat := by
  have table : ∀ k : Fin 0x80,
      (escape (Char.ofNat k.val)).all (fun e => 0x20 ≤ e.toNat) = true := by
    decide +kernel
  by_cases hc : c.toNat < 0x80
  · have hall := table ⟨c.toNat, hc⟩
    rw [Char.ofNat_toNat] at hall
    exact of_decide_eq_true (List.all_eq_true.mp hall d h)
  · rw [escape_of_le (by omega)] at h
    obtain rfl := List.mem_singleton.mp h
    omega

theorem visible_of_mem_quoteChars {cs : List Char} {d : Char} (h : d ∈ quoteChars cs) :
    0x20 ≤ d.toNat := by
  rcases List.mem_append.mp h with h | h
  · rcases List.mem_cons.mp h with rfl | h
    · decide
    · obtain ⟨c, -, hd⟩ := List.mem_flatMap.mp h
      exact visible_of_mem_escape hd
  · obtain rfl := List.mem_singleton.mp h
    decide

theorem visible_of_mem_chars {v : Value} {d : Char} (h : d ∈ v.chars) : 0x20 ≤ d.toNat := by
  cases v with
  | null =>
    have hword : ∀ e ∈ ['n', 'u', 'l', 'l'], 0x20 ≤ e.toNat := by simp
    exact hword d h
  | number n =>
    have hdigit := Nat.isDigit_of_mem_toDigits (by decide) (by decide) h
    simp only [Char.isDigit, Bool.and_eq_true, decide_eq_true_eq] at hdigit
    exact Nat.le_trans (by decide) (UInt32.le_iff_toNat_le.mp hdigit.1)
  | string text => exact visible_of_mem_quoteChars h

namespace Object

def memberLine (m : String × Value) : List Char :=
  [' ', ' '] ++ quoteChars m.1.toList ++ [':', ' '] ++ m.2.chars

def memberLines : Object → List (List Char)
  | [] => []
  | [m] => [memberLine m]
  | m :: rest => (memberLine m ++ [',']) :: memberLines rest

def lines (members : Object) : List (List Char) := ['{'] :: memberLines members ++ [['}']]

theorem length_memberLines (members : Object) : (memberLines members).length = members.length := by
  fun_induction memberLines members with
  | case1 => rfl
  | case2 => rfl
  | case3 m rest _ ih => rw [List.length_cons, ih, List.length_cons]

@[simp] theorem length_lines (members : Object) : members.lines.length = members.length + 2 := by
  simp [lines, length_memberLines]

theorem visible_of_mem_memberLine {m : String × Value} {c : Char} (h : c ∈ memberLine m) :
    0x20 ≤ c.toNat := by
  have hblank : ∀ d ∈ [' ', ' '], 0x20 ≤ d.toNat := by simp
  have hcolon : ∀ d ∈ [':', ' '], 0x20 ≤ d.toNat := by simp
  rcases List.mem_append.mp h with h | h
  · rcases List.mem_append.mp h with h | h
    · rcases List.mem_append.mp h with h | h
      · exact hblank c h
      · exact visible_of_mem_quoteChars h
    · exact hcolon c h
  · exact visible_of_mem_chars h

theorem visible_of_mem_memberLines {members : Object} {line : List Char} {c : Char}
    (hline : line ∈ memberLines members) (hc : c ∈ line) : 0x20 ≤ c.toNat := by
  fun_induction memberLines members with
  | case1 => cases hline
  | case2 m =>
    obtain rfl := List.mem_singleton.mp hline
    exact visible_of_mem_memberLine hc
  | case3 m rest _ ih =>
    rcases List.mem_cons.mp hline with rfl | hline
    · rcases List.mem_append.mp hc with hc | hc
      · exact visible_of_mem_memberLine hc
      · obtain rfl := List.mem_singleton.mp hc
        decide
    · exact ih hline

/-- No line holds a character below U+0020. -/
theorem visible_of_mem_lines {members : Object} {line : List Char} {c : Char}
    (hline : line ∈ members.lines) (hc : c ∈ line) : 0x20 ≤ c.toNat := by
  rcases List.mem_append.mp hline with hline | hline
  · rcases List.mem_cons.mp hline with rfl | hline
    · obtain rfl := List.mem_singleton.mp hc
      decide
    · exact visible_of_mem_memberLines hline hc
  · obtain rfl := List.mem_singleton.mp hline
    obtain rfl := List.mem_singleton.mp hc
    decide

theorem flatMap_memberLines {members : Object} (h : members ≠ []) :
    (memberLines members).flatMap (· ++ ['\n']) =
      [' ', ' '] ++ joined [',', '\n', ' ', ' ']
        (members.map fun m => quoteChars m.1.toList ++ [':', ' '] ++ m.2.chars) ++ ['\n'] := by
  fun_induction memberLines members with
  | case1 => exact absurd rfl h
  | case2 m => simp [memberLine, joined]
  | case3 m rest hrest ih =>
    cases rest with
    | nil => exact absurd rfl hrest
    | cons m' rest =>
      have ih := ih (List.cons_ne_nil _ _)
      simp only [List.flatMap_cons, List.map_cons, joined] at ih ⊢
      rw [ih]
      simp [memberLine]

/-- A document and the line feed behind it are its lines, each ended by a line feed. -/
theorem flatMap_lines {members : Object} (h : members ≠ []) :
    members.lines.flatMap (· ++ ['\n']) = members.prettyChars ++ ['\n'] := by
  have hmembers := flatMap_memberLines h
  cases members with
  | nil => exact absurd rfl h
  | cons m rest =>
    rw [lines, List.flatMap_append, List.flatMap_cons, hmembers]
    simp [prettyChars, laidOut]

end Object

end ByteInspector.Json
