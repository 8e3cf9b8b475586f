import ByteInspector.Hex

/-! # Blanks around the digits

Trimming takes the blanks off both ends and nothing else. What is left begins and ends with a character
that is no blank, and the text decides it.
-/
namespace ByteInspector.Hex

def blanks : List Char := [' ', '\t', '\n', '\x0c', '\r']

theorem isBlank_iff {c : Char} : isBlank c = true ↔ c ∈ blanks := by
  simp [isBlank, blanks, or_assoc]

theorem isBlank_eq_false_iff {c : Char} : isBlank c = false ↔ c ∉ blanks := by
  rw [← isBlank_iff, Bool.not_eq_true]

structure Trimming (cs lead body trail : List Char) : Prop where
  split : cs = lead ++ body ++ trail
  lead_blank : ∀ c ∈ lead, c ∈ blanks
  trail_blank : ∀ c ∈ trail, c ∈ blanks
  head_solid : ∀ c, body.head? = some c → c ∉ blanks
  last_solid : ∀ c, body.getLast? = some c → c ∉ blanks

theorem mem_blanks_of_mem_takeWhile {c : Char} {cs : List Char} (h : c ∈ cs.takeWhile isBlank) :
    c ∈ blanks := isBlank_iff.mp (List.all_eq_true.mp List.all_takeWhile c h)

theorem not_mem_blanks_of_head?_dropWhile {c : Char} {cs : List Char}
    (h : (cs.dropWhile isBlank).head? = some c) : c ∉ blanks := by
  have hc := List.head?_dropWhile_not isBlank cs
  rw [h] at hc
  exact isBlank_eq_false_iff.mp hc

theorem dropWhile_isBlank_append {lead rest : List Char} (hlead : ∀ c ∈ lead, c ∈ blanks)
    (hrest : ∀ c, rest.head? = some c → c ∉ blanks) :
    (lead ++ rest).dropWhile isBlank = rest := by
  rw [List.dropWhile_append_of_pos]
  · cases rest with
    | nil => rfl
    | cons c rest =>
      have hc := isBlank_eq_false_iff.mpr (hrest c rfl)
      rw [List.dropWhile_cons_of_neg (by simp [hc])]
  · intro c hc
    exact isBlank_iff.mpr (hlead c hc)

theorem trimming_trimmed (cs : List Char) :
    Trimming cs (cs.takeWhile isBlank) (trimmed cs)
      ((cs.dropWhile isBlank).reverse.takeWhile isBlank).reverse where
  split := by
    have hinner := List.takeWhile_append_dropWhile (p := isBlank)
      (l := (cs.dropWhile isBlank).reverse)
    have houter := List.takeWhile_append_dropWhile (p := isBlank) (l := cs)
    rw [trimmed, List.append_assoc, ← List.reverse_append, hinner, List.reverse_reverse, houter]
  lead_blank := by
    intro c hc
    exact mem_blanks_of_mem_takeWhile hc
  trail_blank := by
    intro c hc
    exact mem_blanks_of_mem_takeWhile (List.mem_reverse.mp hc)
  head_solid := by
    intro c hc
    have hprefix : trimmed cs <+: cs.dropWhile isBlank := by
      have hsuffix := List.dropWhile_suffix (l := (cs.dropWhile isBlank).reverse) isBlank
      rw [trimmed]
      exact List.reverse_suffix.mp (by rwa [List.reverse_reverse])
    obtain ⟨rest, hrest⟩ := hprefix
    have hhead : (cs.dropWhile isBlank).head? = some c := by
      rw [← hrest, List.head?_append, hc, Option.some_or]
    exact not_mem_blanks_of_head?_dropWhile hhead
  last_solid := by
    intro c hc
    rw [trimmed, List.getLast?_reverse] at hc
    exact not_mem_blanks_of_head?_dropWhile hc

theorem Trimming.body_eq {cs lead body trail : List Char} (h : Trimming cs lead body trail) :
    body = trimmed cs := by
  have htrail : ∀ c ∈ trail.reverse, c ∈ blanks := fun c hc =>
    h.trail_blank c (List.mem_reverse.mp hc)
  cases hbody : body with
  | nil =>
    have hall : ∀ c ∈ lead ++ trail, c ∈ blanks := by
      intro c hc
      rcases List.mem_append.mp hc with hc | hc
      · exact h.lead_blank c hc
      · exact h.trail_blank c hc
    have hdrop : (lead ++ trail ++ []).dropWhile isBlank = [] :=
      dropWhile_isBlank_append hall (by simp)
    rw [trimmed, h.split, hbody, List.append_nil, ← List.append_nil (lead ++ trail), hdrop]
    rfl
  | cons c rest =>
    rw [← hbody]
    have hhead : ∀ d, (body ++ trail).head? = some d → d ∉ blanks := by
      intro d hd
      refine h.head_solid d ?_
      rw [hbody] at hd ⊢
      exact hd
    have hlast : ∀ d, body.reverse.head? = some d → d ∉ blanks := by
      intro d hd
      rw [List.head?_reverse] at hd
      exact h.last_solid d hd
    have hfront := dropWhile_isBlank_append h.lead_blank hhead
    have hback := dropWhile_isBlank_append htrail hlast
    rw [trimmed, h.split, List.append_assoc, hfront, List.reverse_append, hback,
      List.reverse_reverse]

end ByteInspector.Hex
