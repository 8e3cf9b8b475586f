import Mathlib.Data.List.Nodup
import ByteInspector.Proofs.CommandLine.Spellings

/-! # Which command lines are accepted

The reader accepts exactly the command lines of the grammar in which nothing is said twice, and the
settings are those of the items: neither their order nor their spelling counts.
-/
namespace ByteInspector.CommandLine

namespace Scan

variable {s t : Scan}

/-- A parameter that waits gets its value from the next argument. -/
theorem exists_isPlain_of_waiting {p : Parameter} (hs : s.pending = some ⟨p, none⟩) {rest : List String}
    (h : s.complete (rest.map RawText.ofString) = some t) :
    ∃ value more, rest = value :: more ∧ IsPlain value := by
  have hnone : s.settled.toOption = none := by
    rw [settled, settle, hs]
    rfl
  cases rest with
  | nil =>
    rw [List.map_nil, complete_nil, hnone] at h
    cases h
  | cons value more =>
    refine ⟨value, more, rfl, ?_⟩
    rw [List.map_cons] at h
    rcases isPlain_or_dashed value with hplain | ⟨c, cs, rfl⟩
    · exact hplain
    -- whatever else comes next is read only behind the fault of the missing value
    · exfalso
      by_cases hc : c = '-'
      · subst hc
        cases cs with
        | nil =>
          have hfirst : RawText.ofString (String.ofList ['-', '-']) = dashes := rfl
          rw [hfirst] at h
          cases more with
          | nil =>
            rw [List.map_nil, complete_dashes_nil, hnone] at h
            cases h
          | cons v vs =>
            rw [List.map_cons, complete_dashes_cons, toOption_positional, hnone] at h
            cases h
        | cons d ds =>
          rw [complete_long s (List.cons_ne_nil d ds), toOption_long, hnone] at h
          cases h
      · rw [complete_cluster s hc, List.map_cons, toOption_cluster, hnone] at h
        cases h

theorem toOption_flag_of_ends {p : Parameter} (h : p = .help ∨ p = .version) (long : Bool) :
    (s.flag p long).toOption = none := by
  rw [flag, toOption_bind]
  cases s.settled with
  | error stop => rfl
  | ok u => rcases h with rfl | rfl <;> rfl

/-- Only two letters can open what is accepted. -/
theorem toOption_cluster_of_ne {c : Char} (hp : c ≠ 'p') (hv : c ≠ 'v') (more : RawText) :
    (s.cluster (.scalar c :: more)).toOption = none := by
  rw [cluster]
  by_cases hh : c = 'h'
  · subst hh
    show (s.flag .help false >>= fun s => s.cluster more).toOption = none
    rw [toOption_bind, toOption_flag_of_ends (.inl rfl)]
    rfl
  by_cases hV : c = 'V'
  · subst hV
    show (s.flag .version false >>= fun s => s.cluster more).toOption = none
    rw [toOption_bind, toOption_flag_of_ends (.inr rfl)]
    rfl
  have hnone : Parameter.ofShort? c = none := by
    simp only [Parameter.ofShort?, if_neg hp, if_neg hv, if_neg hh, if_neg hV]
  rw [hnone]
  rfl

/-- Behind the letter of the option stands its value, or the next argument is its value. -/
theorem exists_letters_of_option (hs : s.pending = none) {cs : List Char} {rest : List String}
    (h : (s.cluster (('p' :: cs).map .scalar)).toOption.bind
      (·.complete (rest.map RawText.ofString)) = some t) :
    ∃ used more items, rest = used ++ more ∧ Letters ('p' :: cs) used items := by
  cases cs with
  | nil =>
    have hcluster : s.cluster (['p'].map .scalar) = s.option .policy none := rfl
    rw [hcluster, option_none hs] at h
    obtain ⟨value, more, rfl, hvalue⟩ := exists_isPlain_of_waiting rfl h
    exact ⟨[value], more, _, rfl, .separate hvalue⟩
  | cons c cs =>
    by_cases hc : c = '='
    · subst hc
      exact ⟨[], rest, _, rfl, .equals⟩
    · exact ⟨[], rest, _, rfl, .attached hc⟩

/-- Letters that are accepted are those of the grammar. -/
theorem exists_letters_of_cluster (hs : s.pending = none) {c : Char} {cs : List Char}
    {rest : List String}
    (h : (s.cluster ((c :: cs).map .scalar)).toOption.bind (·.complete (rest.map RawText.ofString)) =
      some t) :
    ∃ used more items, rest = used ++ more ∧ Letters (c :: cs) used items := by
  -- along the letters: a flag is followed by more of them, an option ends them
  induction cs generalizing c s with
  | nil =>
    by_cases hp : c = 'p'
    · subst hp
      exact exists_letters_of_option hs h
    by_cases hv : c = 'v'
    · subst hv
      exact ⟨[], rest, _, rfl, .verbose⟩
    · rw [List.map_cons, toOption_cluster_of_ne hp hv] at h
      cases h
  | cons d ds ih =>
    by_cases hp : c = 'p'
    · subst hp
      exact exists_letters_of_option hs h
    by_cases hv : c = 'v'
    · subst hv
      change ((s.flag .verbose false >>= fun s => s.cluster ((d :: ds).map .scalar)).toOption.bind _) =
        _ at h
      rw [toOption_bind, toOption_flag_verbose hs, Option.bind_assoc, Option.bind_eq_some_iff] at h
      obtain ⟨u, hadd, hrest⟩ := h
      obtain ⟨used, more, items, hsplit, hletters⟩ := ih ((pending_add hadd).trans hs) hrest
      exact ⟨used, more, _, hsplit, .bundled hletters⟩
    · rw [List.map_cons, toOption_cluster_of_ne hp hv] at h
      cases h

theorem exists_name_tail (body : List Char) :
    ∃ name tail, body = name ++ tail ∧ '=' ∉ name ∧ ∀ c ∈ tail.head?, c = '=' := by
  by_cases h : '=' ∈ body
  · obtain ⟨name, value, rfl, hname⟩ := List.eq_append_cons_of_mem h
    exact ⟨name, '=' :: value, rfl, hname, by simp⟩
  · exact ⟨body, [], (List.append_nil body).symm, h, by simp⟩

/-- Behind the name of an option stands its value, or the next argument is its value. -/
theorem exists_spelling_of_named (hs : s.pending = none) {name tail : List Char} {p : Parameter}
    {item : String → Item} (hitem : (String.ofList name, item) ∈ namedOptions)
    (htail : ∀ c ∈ tail.head?, c = '=') {rest : List String}
    (h : (s.option p ((tail.map .scalar).tail?)).toOption.bind
      (·.complete (rest.map RawText.ofString)) = some t) :
    ∃ used more items, rest = used ++ more ∧
      Spelling (String.ofList ('-' :: '-' :: (name ++ tail)) :: used) items := by
  cases tail with
  | nil =>
    change (s.option p none).toOption.bind _ = _ at h
    rw [option_none hs] at h
    obtain ⟨value, more, rfl, hvalue⟩ := exists_isPlain_of_waiting rfl h
    refine ⟨[value], more, [item value], rfl, ?_⟩
    rw [List.append_nil, ofList_long]
    exact .separate hitem hvalue
  | cons c value =>
    obtain rfl := htail c rfl
    refine ⟨[], rest, [item (String.ofList value)], rfl, ?_⟩
    rw [ofList_long_attached]
    exact .attached hitem

/-- A long argument that is accepted is an option or the flag that is remembered. -/
theorem exists_spelling_of_long (hs : s.pending = none) {body : List Char} {rest : List String}
    (h : (s.long (body.map .scalar)).toOption.bind (·.complete (rest.map RawText.ofString)) =
      some t) :
    ∃ used more items, rest = used ++ more ∧
      Spelling (String.ofList ('-' :: '-' :: body) :: used) items := by
  obtain ⟨name, tail, rfl, hname, htail⟩ := exists_name_tail body
  rw [long_eq s hname htail] at h
  cases hp : Parameter.ofLong? (String.ofList name) with
  | none =>
    rw [hp] at h
    cases h
  | some p =>
    simp only [hp] at h
    rcases cases_of_ofLong? hp with ⟨htakes, item, hitem⟩ | ⟨rfl, hverbose⟩ | hends
    · rw [if_pos htakes] at h
      exact exists_spelling_of_named hs hitem htail h
    · cases tail with
      | nil =>
        refine ⟨[], rest, [.verbose], rfl, ?_⟩
        rw [List.append_nil, ofList_long, hverbose]
        exact .verbose
      | cons c value => cases h
    · have hflag : p.takesValue = false := by rcases hends with rfl | rfl <;> rfl
      rw [hflag] at h
      cases tail with
      | nil =>
        change (s.flag p true).toOption.bind _ = _ at h
        rw [toOption_flag_of_ends hends] at h
        cases h
      | cons c value => cases h

/-- In front of what is accepted stands a spelling, unless two dashes do. -/
theorem exists_spelling_of_complete (hs : s.pending = none) {first : String} {rest : List String}
    (hfirst : first ≠ "--") (h : s.complete ((first :: rest).map RawText.ofString) = some t) :
    ∃ arguments more items, first :: rest = arguments ++ more ∧ arguments ≠ [] ∧
      Spelling arguments items := by
  rcases isPlain_or_dashed first with hplain | ⟨c, cs, rfl⟩
  · exact ⟨[first], rest, _, rfl, List.cons_ne_nil _ _, .hex hplain⟩
  rw [List.map_cons] at h
  by_cases hc : c = '-'
  · subst hc
    have hbody : cs ≠ [] := by
      rintro rfl
      exact hfirst rfl
    rw [complete_long s hbody] at h
    obtain ⟨used, more, items, rfl, hspelling⟩ := exists_spelling_of_long hs h
    exact ⟨_ :: used, more, items, rfl, List.cons_ne_nil _ _, hspelling⟩
  · rw [complete_cluster s hc] at h
    obtain ⟨used, more, items, rfl, hletters⟩ := exists_letters_of_cluster hs h
    exact ⟨_ :: used, more, items, rfl, List.cons_ne_nil _ _, .letters hletters⟩

theorem complete_trailing (hs : s.pending = none) (values : List String) :
    s.complete (dashes :: values.map RawText.ofString) = s.addAll (values.map .hex) := by
  induction values generalizing s with
  | nil =>
    rw [List.map_nil, complete_dashes_nil, settled_eq_self hs]
    rfl
  | cons value values ih =>
    rw [List.map_cons, complete_dashes_cons, bind_positional hs, List.map_cons, addAll_cons]
    cases hadd : s.add (.hex value) with
    | none => rfl
    | some u => exact ih ((pending_add hadd).trans hs)

/-- What a command line says is added to what has been read. -/
theorem complete_of_derives (hs : s.pending = none) {arguments : List String} {items : List Item}
    (h : Derives arguments items) :
    s.complete (arguments.map RawText.ofString) = s.addAll items := by
  induction h generalizing s with
  | nil =>
    rw [List.map_nil, complete_nil, settled_eq_self hs]
    rfl
  | @spelling arguments more items others hspelling _ ih =>
    rw [List.map_append, complete_of_spelling hs hspelling, addAll_append]
    cases hadd : s.addAll items with
    | none => rfl
    | some u => exact ih ((pending_addAll hadd).trans hs)
  | trailing values => exact complete_trailing hs values

/-- What is accepted is a command line of the grammar. -/
theorem exists_derives_of_complete (hs : s.pending = none) {arguments : List String}
    (h : s.complete (arguments.map RawText.ofString) = some t) :
    ∃ items, Derives arguments items := by
  -- by strong induction on the number of arguments: a spelling uses up at least one
  induction hlength : arguments.length using Nat.strongRecOn generalizing arguments s with
  | _ n ih =>
    cases arguments with
    | nil => exact ⟨[], .nil⟩
    | cons first rest =>
      by_cases hfirst : first = "--"
      · subst hfirst
        exact ⟨_, .trailing rest⟩
      · obtain ⟨used, more, items, heq, hused, hspelling⟩ := exists_spelling_of_complete hs hfirst h
        rw [heq, List.map_append, complete_of_spelling hs hspelling, Option.bind_eq_some_iff] at h
        obtain ⟨u, hadd, hmore⟩ := h
        have hlt : more.length < n := by
          have hpos := List.length_pos_iff.mpr hused
          rw [← hlength, heq, List.length_append]
          omega
        obtain ⟨others, hothers⟩ := ih more.length hlt ((pending_addAll hadd).trans hs) hmore rfl
        exact ⟨items ++ others, by rw [heq]; exact .spelling hspelling hothers⟩

theorem addAll_eq_some_iff {items : List Item} (hs : s.seen.Nodup) :
    s.addAll items = some t ↔ (s.seen ++ items.map Item.parameter).Nodup ∧
      t = { s with
        seen := s.seen ++ items.map Item.parameter
        settings := items.foldl Item.apply s.settings } := by
  induction items generalizing s with
  | nil => simp [addAll, hs, eq_comm]
  | cons item items ih =>
    rw [addAll_cons]
    by_cases hmem : item.parameter ∈ s.seen
    · rw [add_of_mem hmem]
      constructor
      · intro h
        cases h
      · rintro ⟨hnodup, -⟩
        exact absurd rfl ((List.nodup_append.mp hnodup).2.2 _ hmem _ List.mem_cons_self)
    · have hseen : (s.seen ++ [item.parameter]).Nodup :=
        List.nodup_append.mpr ⟨hs, List.nodup_singleton _, fun p hp q hq heq =>
          hmem (List.mem_singleton.mp hq ▸ heq ▸ hp)⟩
      rw [add_of_not_mem hmem, Option.bind_some, ih hseen]
      simp only [List.append_assoc, List.singleton_append, List.map_cons, List.foldl_cons]

end Scan

open Scan

/-- Items of different parameters may change places. -/
theorem Item.apply_comm {item other : Item} (h : item.parameter ≠ other.parameter) (s : Settings) :
    other.apply (item.apply s) = item.apply (other.apply s) := by
  revert h
  cases item <;> cases other <;> simp [apply, parameter]

theorem settingsOf_perm {items others : List Item} (h : items.Perm others) (hitems : Distinct items) :
    settingsOf items = settingsOf others := by
  refine h.foldl_eq' (fun item hitem other hother s => ?_) _
  by_cases heq : item.parameter = other.parameter
  · rw [List.inj_on_of_nodup_map hitems hitem hother heq]
  · exact Item.apply_comm heq s

theorem Distinct.perm_iff {items others : List Item} (h : items.Perm others) :
    Distinct items ↔ Distinct others :=
  (h.map Item.parameter).nodup_iff

structure Conforms (read : List String → Except Stop Settings) : Prop where
  /-- It accepts what the grammar derives without saying anything twice, with the settings of that. -/
  accepted : ∀ arguments settings, read arguments = .ok settings ↔
    ∃ items, Derives arguments items ∧ Distinct items ∧ settingsOf items = settings
  /-- Any one derivation tells whether it accepts, and with which settings. -/
  derived : ∀ arguments items, Derives arguments items → ∀ settings,
    (read arguments = .ok settings ↔ Distinct items ∧ settingsOf items = settings)
  /-- Lines that say the same, in any order and in any spelling, are read alike. -/
  reordered : ∀ arguments others items items', Derives arguments items → Derives others items' →
    items.Perm items' → ∀ settings, (read arguments = .ok settings ↔ read others = .ok settings)
  /-- All settings can be given, whatever they are. -/
  spelled : ∀ hex policy format,
    read ["--policy=" ++ policy, "--format=" ++ format, "--", hex] =
      .ok { hex := some hex, policy := policy, format := format }

theorem parse_eq_ok_iff_complete {arguments : List RawText} {settings : Settings} :
    parse arguments none = .ok settings ↔
      ∃ t, Scan.complete {} arguments = some t ∧ t.settings = settings := by
  have hparse : (parse arguments none).toOption =
      (Scan.complete {} arguments).map Scan.settings := by
    unfold parse complete
    cases Scan.arguments {} arguments with
    | error stop => rfl
    | ok s =>
      show (s.settled >>= _).toOption = s.settled.toOption.map _
      cases s.settled with
      | error stop => rfl
      | ok t =>
        rw [bind_ok]
        split
        · next heq => cases heq
        · rfl
  rw [← toOption_eq_some_iff, hparse, Option.map_eq_some_iff]

/-- A derivation tells whether its command line is accepted, and with which settings. -/
theorem parse_eq_ok_iff_of_derives {arguments : List String} {items : List Item}
    (h : Derives arguments items) (settings : Settings) :
    parse (arguments.map RawText.ofString) none = .ok settings ↔
      Distinct items ∧ settingsOf items = settings := by
  rw [parse_eq_ok_iff_complete]
  constructor
  · rintro ⟨t, ht, rfl⟩
    rw [complete_of_derives rfl h, addAll_eq_some_iff List.nodup_nil] at ht
    obtain ⟨hnodup, rfl⟩ := ht
    exact ⟨hnodup, rfl⟩
  · rintro ⟨hdistinct, rfl⟩
    rw [complete_of_derives rfl h]
    exact ⟨_, (addAll_eq_some_iff List.nodup_nil).mpr ⟨hdistinct, rfl⟩, rfl⟩

theorem derives_all_settings (hex policy format : String) :
    Derives ["--policy=" ++ policy, "--format=" ++ format, "--", hex]
      [.policy policy, .format format, .hex hex] := by
  have hpolicy : Spelling ["--" ++ "policy" ++ "=" ++ policy] [.policy policy] :=
    .attached List.mem_cons_self
  have hformat : Spelling ["--" ++ "format" ++ "=" ++ format] [.format format] :=
    .attached (List.mem_cons_of_mem _ List.mem_cons_self)
  exact .spelling hpolicy (.spelling hformat (.trailing [hex]))

/-- Without the variable, command lines are read as their grammar says. -/
theorem conforms_parse : Conforms fun arguments => parse (arguments.map RawText.ofString) none where
  accepted := by
    intro arguments settings
    constructor
    · intro h
      obtain ⟨t, ht, -⟩ := parse_eq_ok_iff_complete.mp h
      obtain ⟨items, hitems⟩ := exists_derives_of_complete rfl ht
      exact ⟨items, hitems, (parse_eq_ok_iff_of_derives hitems settings).mp h⟩
    · rintro ⟨items, hitems, hsettings⟩
      exact (parse_eq_ok_iff_of_derives hitems settings).mpr hsettings
  derived := fun _ _ h => parse_eq_ok_iff_of_derives h
  reordered := by
    intro arguments others items items' hitems hitems' hperm settings
    rw [parse_eq_ok_iff_of_derives hitems, parse_eq_ok_iff_of_derives hitems',
      ← Distinct.perm_iff hperm]
    exact and_congr_right fun hdistinct => by rw [settingsOf_perm hperm hdistinct]
  spelled := by
    intro hex policy format
    exact (parse_eq_ok_iff_of_derives (derives_all_settings hex policy format) _).mpr
      ⟨by simp [Distinct, Item.parameter], rfl⟩

end ByteInspector.CommandLine
