import ByteInspector.Json.Reader

/-! # Written objects are read back

Reading undoes writing, in both layouts: no text of a member can end its string early, and no value
runs into what follows it.
-/
namespace ByteInspector.Json

theorem unit?_control {n : Nat} (h : n < 0x20) :
    unit? '0' '0' (Nat.digitChar (n / 16)) (Nat.digitChar (n % 16)) = some n := by
  have table : ∀ k : Fin 0x20,
      unit? '0' '0' (Nat.digitChar (k.val / 16)) (Nat.digitChar (k.val % 16)) = some k.val := by
    decide
  exact table ⟨n, h⟩

theorem readString_escape (c : Char) (rest : List Char) :
    readString (escape c ++ rest) = (readString rest).map fun read => (c :: read.1, read.2) := by
  unfold escape
  split
  · next h => subst h; simp [readString, namedCharacter?]
  split
  · next h => subst h; simp [readString, namedCharacter?]
  split
  · next h => subst h; simp [readString, namedCharacter?]
  split
  · next h => subst h; simp [readString, namedCharacter?]
  split
  · next h => subst h; simp [readString, namedCharacter?]
  split
  · next h => subst h; simp [readString, namedCharacter?]
  split
  · next h => subst h; simp [readString, namedCharacter?]
  split
  · next h =>
    have hvalid : c.toNat.isValidChar := Or.inl (by omega)
    simp [readString, unit?_control h, hvalid, Char.ofNat_toNat]
  · next hquote hslash _ _ _ _ _ hcontrol =>
    rw [List.singleton_append, readString]
    · rw [if_pos ⟨hslash, by omega⟩]
    · exact fun h => hquote h
    · exact fun _ _ _ _ _ h => absurd h hslash
    · exact fun _ _ h => absurd h hslash

theorem readString_flatMap_escape (cs rest : List Char) :
    readString (cs.flatMap escape ++ '"' :: rest) = some (cs, rest) := by
  induction cs with
  | nil => simp [readString]
  | cons c cs ih => rw [List.flatMap_cons, List.append_assoc, readString_escape, ih]; rfl

theorem tokens_eq (cs : List Char) : tokens cs =
    match cs.dropWhile isBlank with
    | [] => some []
    | c :: rest => (readToken c rest).bind fun read => (tokens read.2).map (read.1 :: ·) := by
  rw [tokens]
  split
  · next h => rw [h]
  · next c rest h =>
    rw [h]
    cases hread : readToken c rest with
    | none => simp [hread]
    | some read => simp [hread]

theorem tokens_blank {c : Char} (h : isBlank c = true) (cs : List Char) :
    tokens (c :: cs) = tokens cs := by
  rw [tokens_eq, tokens_eq cs, List.dropWhile_cons_of_pos h]

theorem tokens_cons {c : Char} (h : isBlank c = false) (cs : List Char) :
    tokens (c :: cs) = (readToken c cs).bind fun read => (tokens read.2).map (read.1 :: ·) := by
  rw [tokens_eq, List.dropWhile_cons_of_neg (by simp [h])]

theorem tokens_nil : tokens [] = some [] := by
  rw [tokens_eq]
  rfl

theorem tokens_quoteChars_append (cs rest : List Char) :
    tokens (quoteChars cs ++ rest) =
      (tokens rest).map (.value (.string (String.ofList cs)) :: ·) := by
  simp only [quoteChars, List.cons_append, List.append_assoc, List.nil_append]
  rw [tokens_cons (by decide)]
  simp [readToken, readString_flatMap_escape]

/-- What may stand behind a number: no further digit. -/
def Delimited (rest : List Char) : Prop := ∀ c, rest.head? = some c → c.isDigit = false

theorem toDigits_ten_of_pos {n : Nat} (h : 0 < n) :
    ∃ c ds, Nat.toDigits 10 n = c :: ds ∧ c ≠ '0' ∧ c.isDigit = true := by
  induction n using Nat.strongRecOn with
  | _ n ih =>
    by_cases hn : n < 10
    · have table : ∀ k : Fin 10, 0 < k.val →
          Nat.digitChar k.val ≠ '0' ∧ (Nat.digitChar k.val).isDigit = true := by decide
      obtain ⟨h1, h2⟩ := table ⟨n, hn⟩ h
      exact ⟨_, [], Nat.toDigits_of_lt_base hn, h1, h2⟩
    · obtain ⟨c, ds, hds, h1, h2⟩ := ih (n / 10) (by omega) (by omega)
      refine ⟨c, ds ++ [Nat.digitChar (n % 10)], ?_, h1, h2⟩
      rw [Nat.toDigits_of_base_le (by decide) (by omega), hds]
      rfl

theorem takeWhile_isDigit_append {ds rest : List Char} (hds : ∀ d ∈ ds, d.isDigit = true)
    (hrest : Delimited rest) :
    (ds ++ rest).takeWhile Char.isDigit = ds ∧ (ds ++ rest).dropWhile Char.isDigit = rest := by
  have htake : rest.takeWhile Char.isDigit = [] := by
    cases rest with
    | nil => rfl
    | cons c rest => exact List.takeWhile_cons_of_neg (by simp [hrest c rfl])
  have hdrop : rest.dropWhile Char.isDigit = rest := by
    cases rest with
    | nil => rfl
    | cons c rest => exact List.dropWhile_cons_of_neg (by simp [hrest c rfl])
  rw [List.takeWhile_append_of_pos hds, List.dropWhile_append_of_pos hds, htake, hdrop]
  exact ⟨List.append_nil ds, rfl⟩

theorem readToken_digit {c : Char} (hzero : c ≠ '0') (hdigit : c.isDigit = true)
    (rest : List Char) :
    readToken c rest =
      some (.value (.number (Nat.ofDigitChars 10 (c :: rest.takeWhile Char.isDigit) 0)),
        rest.dropWhile Char.isDigit) := by
  have hne : ∀ d : Char, d.isDigit = false → c ≠ d := by
    rintro d hd rfl
    rw [hdigit] at hd
    cases hd
  simp only [readToken, if_neg (hne '{' (by decide)), if_neg (hne '}' (by decide)),
    if_neg (hne ':' (by decide)), if_neg (hne ',' (by decide)), if_neg (hne '"' (by decide)),
    if_neg (hne 'n' (by decide)), if_neg hzero, hdigit, if_true]

theorem isBlank_of_isDigit {c : Char} (h : c.isDigit = true) : isBlank c = false := by
  have hne : ∀ d : Char, d.isDigit = false → (c == d) = false := by
    intro d hd
    apply beq_eq_false_iff_ne.mpr
    rintro rfl
    rw [h] at hd
    cases hd
  simp [isBlank, hne ' ' (by decide), hne '\t' (by decide), hne '\n' (by decide),
    hne '\r' (by decide)]

theorem tokens_chars_append (v : Value) {rest : List Char} (hrest : Delimited rest) :
    tokens (v.chars ++ rest) = (tokens rest).map (.value v :: ·) := by
  cases v with
  | null =>
    simp only [Value.chars, List.cons_append, List.nil_append]
    rw [tokens_cons (by decide)]
    simp [readToken]
  | number n =>
    rcases Nat.eq_zero_or_pos n with rfl | hn
    · simp only [Value.chars, Nat.toDigits_zero, List.cons_append, List.nil_append]
      rw [tokens_cons (by decide)]
      simp [readToken]
    · obtain ⟨c, ds, hds, hzero, hdigit⟩ := toDigits_ten_of_pos hn
      have hall : ∀ d ∈ ds, d.isDigit = true := by
        intro d hd
        refine Nat.isDigit_of_mem_toDigits (b := 10) (n := n) (by decide) (by decide) ?_
        rw [hds]
        exact List.mem_cons_of_mem _ hd
      obtain ⟨htake, hdrop⟩ := takeWhile_isDigit_append hall hrest
      simp only [Value.chars, hds, List.cons_append]
      rw [tokens_cons (isBlank_of_isDigit hdigit), readToken_digit hzero hdigit, htake, hdrop, ← hds,
        Nat.ofDigitChars_ten_toDigits]
      rfl
  | string text =>
    simp only [Value.chars]
    rw [tokens_quoteChars_append, String.ofList_toList]

def memberTokens : Object → List Token
  | [] => []
  | [(name, v)] => [.value (.string name), .colon, .value v]
  | (name, v) :: rest => .value (.string name) :: .colon :: .value v :: .comma :: memberTokens rest

theorem readMembers_memberTokens {members : Object} (h : members ≠ []) :
    readMembers (memberTokens members ++ [.closeBrace]) = some members := by
  induction members with
  | nil => exact absurd rfl h
  | cons m rest ih =>
    obtain ⟨name, v⟩ := m
    cases rest with
    | nil => rfl
    | cons m' rest =>
      have ih := ih (List.cons_ne_nil _ _)
      simp only [memberTokens, List.cons_append]
      rw [readMembers]
      rw [ih]
      rfl

/-- Characters that stand between values: they are read as certain tokens, whatever follows, and no
number runs into them. -/
structure IsGlue (cs : List Char) (ts : List Token) : Prop where
  tokens_append : ∀ rest, tokens (cs ++ rest) = (tokens rest).map (ts ++ ·)
  delimited : ∀ rest, Delimited (cs ++ rest)

theorem isGlue_cons {c : Char} {t : Token} (hblank : isBlank c = false)
    (hdigit : c.isDigit = false) (hread : ∀ rest, readToken c rest = some (t, rest))
    {blanks : List Char} (hblanks : ∀ b ∈ blanks, isBlank b = true) : IsGlue (c :: blanks) [t] := by
  have hskip : ∀ bs : List Char, (∀ b ∈ bs, isBlank b = true) → ∀ rest,
      tokens (bs ++ rest) = tokens rest := by
    intro bs hbs rest
    induction bs with
    | nil => rfl
    | cons b bs ih =>
      rw [List.cons_append, tokens_blank (hbs b List.mem_cons_self)]
      exact ih fun x hx => hbs x (List.mem_cons_of_mem _ hx)
  constructor
  · intro rest
    rw [List.cons_append, tokens_cons hblank, hread, Option.bind_some, hskip blanks hblanks]
    rfl
  · rintro rest d hd
    cases hd
    exact hdigit

theorem IsGlue.blank {c : Char} {cs : List Char} {ts : List Token} (h : IsGlue cs ts)
    (hblank : isBlank c = true) (hdigit : c.isDigit = false) : IsGlue (c :: cs) ts := by
  constructor
  · intro rest
    rw [List.cons_append, tokens_blank hblank, h.tokens_append]
  · rintro rest d hd
    cases hd
    exact hdigit

theorem tokens_joined {separator beforeValue closing : List Char}
    (hsep : IsGlue separator [.comma]) (hvalue : IsGlue beforeValue [.colon])
    (hclose : IsGlue closing [.closeBrace]) (members : Object) :
    tokens (joined separator
        (members.map fun m => quoteChars m.1.toList ++ beforeValue ++ m.2.chars) ++ closing) =
      some (memberTokens members ++ [.closeBrace]) := by
  have hend : tokens closing = some [.closeBrace] := by
    have h := hclose.tokens_append []
    rwa [List.append_nil, tokens_nil] at h
  have hdelimited : Delimited closing := by
    have h := hclose.delimited []
    rwa [List.append_nil] at h
  induction members with
  | nil => exact hend
  | cons m rest ih =>
    obtain ⟨name, v⟩ := m
    cases rest with
    | nil =>
      simp only [List.map_cons, List.map_nil, joined, List.append_assoc]
      rw [tokens_quoteChars_append, hvalue.tokens_append, tokens_chars_append v hdelimited, hend]
      simp [memberTokens]
    | cons m' rest =>
      simp only [List.map_cons, joined, List.append_assoc] at ih ⊢
      rw [tokens_quoteChars_append, hvalue.tokens_append,
        tokens_chars_append v (hsep.delimited _), hsep.tokens_append, ih]
      simp [memberTokens]

theorem read?_laidOut {opening beforeValue separator closing : List Char}
    (hopen : IsGlue opening [.openBrace]) (hvalue : IsGlue beforeValue [.colon])
    (hsep : IsGlue separator [.comma]) (hclose : IsGlue closing [.closeBrace])
    (members : Object) :
    Object.read? (String.ofList (members.laidOut opening beforeValue separator closing)) =
      some members := by
  have htokens := tokens_joined hsep hvalue hclose members
  rw [Object.read?, String.toList_ofList, Object.laidOut, List.append_assoc, hopen.tokens_append,
    htokens]
  cases members with
  | nil => rfl
  | cons m rest =>
    have hread := readMembers_memberTokens (List.cons_ne_nil m rest)
    obtain ⟨name, v⟩ := m
    cases rest <;> exact hread

theorem read?_compact (members : Object) : Object.read? members.compact = some members := by
  refine read?_laidOut ?_ ?_ ?_ ?_ members
  all_goals exact isGlue_cons (by decide) (by decide) (fun _ => rfl) (by simp)

/-- Blanks behind a document are no part of it. -/
theorem read?_prettyChars_append (members : Object) {blanks : List Char}
    (h : ∀ b ∈ blanks, isBlank b = true) :
    Object.read? (String.ofList (members.prettyChars ++ blanks)) = some members := by
  have hclose : IsGlue ('}' :: blanks) [.closeBrace] :=
    isGlue_cons (by decide) (by decide) (fun _ => rfl) h
  cases members with
  | nil =>
    have hopen : IsGlue ['{'] [.openBrace] :=
      isGlue_cons (by decide) (by decide) (fun _ => rfl) (by simp)
    have hvalue : IsGlue [':'] [.colon] :=
      isGlue_cons (by decide) (by decide) (fun _ => rfl) (by simp)
    have hsep : IsGlue [','] [.comma] :=
      isGlue_cons (by decide) (by decide) (fun _ => rfl) (by simp)
    exact read?_laidOut hopen hvalue hsep hclose []
  | cons m rest =>
    have hopen : IsGlue ['{', '\n', ' ', ' '] [.openBrace] :=
      isGlue_cons (by decide) (by decide) (fun _ => rfl) (by simp [isBlank])
    have hvalue : IsGlue [':', ' '] [.colon] :=
      isGlue_cons (by decide) (by decide) (fun _ => rfl) (by simp [isBlank])
    have hsep : IsGlue [',', '\n', ' ', ' '] [.comma] :=
      isGlue_cons (by decide) (by decide) (fun _ => rfl) (by simp [isBlank])
    have hclose : IsGlue ('\n' :: '}' :: blanks) [.closeBrace] :=
      hclose.blank (by decide) (by decide)
    have hchars : Object.prettyChars (m :: rest) =
        Object.laidOut ['{', '\n', ' ', ' '] [':', ' '] [',', '\n', ' ', ' '] ['\n', '}'] (m :: rest) :=
      rfl
    have hread := read?_laidOut hopen hvalue hsep hclose (m :: rest)
    rw [Object.laidOut] at hread
    rw [hchars, Object.laidOut, List.append_assoc _ _ blanks]
    exact hread

theorem read?_pretty (members : Object) : Object.read? members.pretty = some members := by
  have h := read?_prettyChars_append members (List.forall_mem_nil _)
  rwa [List.append_nil] at h

theorem read?_pretty_lineFeed (members : Object) :
    Object.read? (members.pretty ++ "\n") = some members := by
  have h : Object.read? (String.ofList (members.prettyChars ++ ['\n'])) = some members :=
    read?_prettyChars_append members (by simp [isBlank])
  rwa [String.ofList_append] at h

end ByteInspector.Json
