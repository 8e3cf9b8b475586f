import ByteInspector.Proofs.CommandLine.Settling

/-! # What a spelling leads to

A spelling at the front of the arguments adds its items to what has been read, and the reading goes on
behind it. Nothing else can stand at the front of arguments that are accepted.
-/
namespace ByteInspector.CommandLine

structure Makes (p : Parameter) (item : String → Item) : Prop where
  parameter : ∀ value, (item value).parameter = p
  apply : ∀ s value, (item value).apply s = assign s value p

theorem makes_hex : Makes .hex .hex := ⟨fun _ => rfl, fun _ _ => rfl⟩

theorem makes_policy : Makes .policy .policy := ⟨fun _ => rfl, fun _ _ => rfl⟩

theorem makes_format : Makes .format .format := ⟨fun _ => rfl, fun _ _ => rfl⟩

theorem makes_of_mem_namedOptions {name : String} {item : String → Item}
    (h : (name, item) ∈ namedOptions) :
    ∃ p, Parameter.ofLong? name = some p ∧ p.takesValue = true ∧ Makes p item := by
  rcases List.mem_cons.mp h with heq | hrest
  · cases heq
    exact ⟨.policy, rfl, rfl, makes_policy⟩
  · cases List.mem_singleton.mp hrest
    exact ⟨.format, rfl, rfl, makes_format⟩

theorem mem_longNames_of_ofLong? {name : String} {p : Parameter}
    (h : Parameter.ofLong? name = some p) : (name, p) ∈ Parameter.longNames := by
  obtain ⟨before, after, hnames, -⟩ := List.lookup_eq_some_iff.mp h
  exact hnames ▸ List.mem_append_right _ List.mem_cons_self

theorem long_name_shape {name : String} {p : Parameter} (h : Parameter.ofLong? name = some p) :
    name.toList ≠ [] ∧ '=' ∉ name.toList := by
  have table : ∀ entry ∈ Parameter.longNames, entry.1.toList ≠ [] ∧ '=' ∉ entry.1.toList := by decide
  exact table _ (mem_longNames_of_ofLong? h)

/-- A long name is that of an option or of a flag. -/
theorem cases_of_ofLong? {name : String} {p : Parameter} (h : Parameter.ofLong? name = some p) :
    (p.takesValue = true ∧ ∃ item, (name, item) ∈ namedOptions) ∨
      (p = .verbose ∧ name = "verbose") ∨ p = .help ∨ p = .version := by
  have hmem := mem_longNames_of_ofLong? h
  simp only [Parameter.longNames, List.mem_cons, List.not_mem_nil, or_false, Prod.mk.injEq] at hmem
  rcases hmem with ⟨rfl, rfl⟩ | ⟨rfl, rfl⟩ | ⟨rfl, rfl⟩ | ⟨-, rfl⟩ | ⟨-, rfl⟩
  · exact .inl ⟨rfl, .policy, List.mem_cons_self⟩
  · exact .inr (.inl ⟨rfl, rfl⟩)
  · exact .inl ⟨rfl, .format, List.mem_cons_of_mem _ List.mem_cons_self⟩
  · exact .inr (.inr (.inl rfl))
  · exact .inr (.inr (.inr rfl))

namespace Scan

/-- Adds an item to what has been read, unless its parameter has been seen. -/
def add (s : Scan) (item : Item) : Option Scan :=
  if item.parameter ∈ s.seen then none
  else some { s with seen := s.seen ++ [item.parameter], settings := item.apply s.settings }

def addAll (s : Scan) (items : List Item) : Option Scan := items.foldlM add s

variable {s t : Scan}

theorem add_of_mem {item : Item} (h : item.parameter ∈ s.seen) : s.add item = none := if_pos h

theorem add_of_not_mem {item : Item} (h : item.parameter ∉ s.seen) :
    s.add item =
      some { s with seen := s.seen ++ [item.parameter], settings := item.apply s.settings } :=
  if_neg h

theorem addAll_cons (s : Scan) (item : Item) (items : List Item) :
    s.addAll (item :: items) = (s.add item).bind (·.addAll items) := rfl

theorem addAll_append (s : Scan) (items others : List Item) :
    s.addAll (items ++ others) = (s.addAll items).bind (·.addAll others) :=
  List.foldlM_append

theorem addAll_singleton (s : Scan) (item : Item) : s.addAll [item] = s.add item := by
  rw [addAll_cons]
  cases s.add item <;> rfl

theorem pending_add {item : Item} (h : s.add item = some t) : t.pending = s.pending := by
  unfold add at h
  split at h
  · cases h
  · cases h
    rfl

theorem pending_addAll {items : List Item} (h : s.addAll items = some t) : t.pending = s.pending := by
  induction items generalizing s with
  | nil =>
    cases h
    rfl
  | cons item items ih =>
    rw [addAll_cons, Option.bind_eq_some_iff] at h
    obtain ⟨u, hu, hrest⟩ := h
    exact (ih hrest).trans (pending_add hu)

/-- A value that is judged adds the item it makes. -/
theorem toOption_insist_record {p : Parameter} {item : String → Item} (h : Makes p item) (s : Scan)
    (value : String) :
    (insist (s.record p (RawText.ofString value))).toOption = s.add (item value) := by
  rw [record, RawText.text?_ofString]
  by_cases hseen : p ∈ s.seen
  · rw [if_pos (List.contains_iff_mem.mpr hseen), add_of_mem (by rwa [h.parameter])]
    rfl
  · rw [if_neg (mt List.contains_iff_mem.mp hseen), add_of_not_mem (by rwa [h.parameter]),
      h.parameter, h.apply]
    rfl

theorem toOption_flag_verbose (hs : s.pending = none) (long : Bool) :
    (s.flag .verbose long).toOption = s.add .verbose := by
  rw [flag, settled_eq_self hs]
  show (if s.seen.contains .verbose then Except.error _ else Except.ok _ : Except Stop Scan).toOption = _
  by_cases hseen : Parameter.verbose ∈ s.seen
  · rw [if_pos (List.contains_iff_mem.mpr hseen), add_of_mem hseen]
    rfl
  · rw [if_neg (mt List.contains_iff_mem.mp hseen), add_of_not_mem hseen]
    rfl

section Reading

variable (hs : s.pending = none)
include hs

theorem with_pending_none : { s with pending := none } = s := by
  cases s
  cases hs
  rfl

theorem option_some (p : Parameter) (value : RawText) :
    s.option p (some value) = insist (s.record p value) := by
  rw [option, settled_eq_self hs]
  rfl

theorem option_none (p : Parameter) : s.option p none = .ok { s with pending := some ⟨p, none⟩ } := by
  rw [option, settled_eq_self hs]
  rfl

/-- A value that waits to be judged adds the item it makes. -/
theorem complete_of_pending {p : Parameter} {item : String → Item} (h : Makes p item) (value : String)
    (arguments : List RawText) :
    ({ s with pending := some ⟨p, some (RawText.ofString value)⟩ } : Scan).complete arguments =
      (s.add (item value)).bind (·.complete arguments) := by
  rw [complete_eq_bind_settled]
  · congr 1
    rw [← toOption_insist_record h]
    show (insist ({ s with pending := none }.record p (RawText.ofString value))).toOption = _
    rw [with_pending_none hs]
  · rintro ⟨q, hq⟩
    cases hq

theorem bind_positional (value : String) (arguments : List RawText) :
    ((s.positional (RawText.ofString value)).toOption.bind (·.complete arguments)) =
      (s.add (.hex value)).bind (·.complete arguments) := by
  unfold positional
  rw [settle_eq_self hs, settled_eq_self hs]
  by_cases hseen : Parameter.hex ∈ s.seen
  · rw [if_pos (List.contains_iff_mem.mpr hseen), add_of_mem hseen]
    rfl
  · rw [if_neg (mt List.contains_iff_mem.mp hseen)]
    exact complete_of_pending hs makes_hex value arguments

end Reading

end Scan

/-- An argument that opens with a dash, and with something behind it, is no value. -/
theorem isPlain_or_dashed (value : String) :
    IsPlain value ∨ ∃ c cs, value = String.ofList ('-' :: c :: cs) := by
  rw [← String.ofList_toList (s := value)]
  generalize value.toList = cs
  cases cs with
  | nil => exact .inl (.inl (by simp))
  | cons c cs =>
    by_cases hc : c = '-'
    · subst hc
      cases cs with
      | nil => exact .inl (.inr rfl)
      | cons c cs => exact .inr ⟨c, cs, rfl⟩
    · exact .inl (.inl (by simpa using hc))

theorem ofString_ofList (cs : List Char) : RawText.ofString (String.ofList cs) = cs.map .scalar := by
  rw [RawText.ofString, String.toList_ofList]

/-- A long argument without a value. -/
theorem ofList_long (name : List Char) :
    String.ofList ('-' :: '-' :: name) = "--" ++ String.ofList name := by
  apply String.toList_inj.mp
  simp

/-- A long argument with a value attached. -/
theorem ofList_long_attached (name value : List Char) :
    String.ofList ('-' :: '-' :: (name ++ '=' :: value)) =
      "--" ++ String.ofList name ++ "=" ++ String.ofList value := by
  apply String.toList_inj.mp
  simp

namespace Scan

variable {s : Scan}

theorem ofString_ne_dashes {value : String} (h : value ≠ "--") :
    RawText.ofString value ≠ dashes := by
  intro heq
  have htext := congrArg RawText.lossy heq
  rw [RawText.lossy_ofString] at htext
  exact h htext

/-- An argument that is a value is read as one. -/
theorem complete_word (s : Scan) {value : String} (h : IsPlain value) (rest : List RawText) :
    s.complete (RawText.ofString value :: rest) =
      (s.word (RawText.ofString value)).toOption.bind (·.complete rest) := by
  have hdashes : value ≠ "--" := by
    rintro rfl
    rcases h with h | h
    · exact h (by decide)
    · exact absurd h (by decide)
  have hword : s.argument (RawText.ofString value) = s.word (RawText.ofString value) := by
    rcases h with h | rfl
    · rw [RawText.ofString]
      generalize value.toList = cs at h ⊢
      cases cs with
      | nil => rfl
      | cons c cs =>
        have hc : c ≠ '-' := by simpa using h
        unfold argument
        split
        · next heq => exact absurd (Utf8.Piece.scalar.inj (List.cons.inj heq).1) hc
        · next heq => exact absurd (Utf8.Piece.scalar.inj (List.cons.inj heq).1) hc
        · rfl
    · rfl
  rw [complete_cons _ _ (ofString_ne_dashes hdashes), hword]

/-- Behind two dashes stands a long name. -/
theorem complete_long (s : Scan) {body : List Char} (h : body ≠ []) (rest : List RawText) :
    s.complete (RawText.ofString (String.ofList ('-' :: '-' :: body)) :: rest) =
      (s.long (body.map .scalar)).toOption.bind (·.complete rest) := by
  have hdashes : String.ofList ('-' :: '-' :: body) ≠ "--" := by
    intro heq
    have hlist := congrArg String.toList heq
    rw [String.toList_ofList] at hlist
    exact h (List.cons.inj (List.cons.inj hlist).2).2
  rw [complete_cons _ _ (ofString_ne_dashes hdashes), ofString_ofList]
  rfl

/-- Behind one dash stand letters. -/
theorem complete_cluster (s : Scan) {c : Char} (hc : c ≠ '-') (cs : List Char) (rest : List RawText) :
    s.complete (RawText.ofString (String.ofList ('-' :: c :: cs)) :: rest) =
      (s.cluster ((c :: cs).map .scalar)).toOption.bind (·.complete rest) := by
  have hdashes : String.ofList ('-' :: c :: cs) ≠ "--" := by
    intro heq
    have hlist := congrArg String.toList heq
    rw [String.toList_ofList] at hlist
    exact hc (List.cons.inj (List.cons.inj hlist).2).1
  have hcluster : s.argument (('-' :: c :: cs).map .scalar) = s.cluster ((c :: cs).map .scalar) := by
    simp only [List.map_cons]
    unfold argument
    split
    · next heq => exact absurd (Utf8.Piece.scalar.inj (List.cons.inj (List.cons.inj heq).2).1) hc
    · next heq =>
      cases heq
      rfl
    · next hother => exact absurd rfl (hother _ _)
  rw [complete_cons _ _ (ofString_ne_dashes hdashes), ofString_ofList, hcluster]

/-- The name of a long argument ends at the first `=`, and the value is what follows that. -/
theorem long_eq (s : Scan) {name tail : List Char} (hname : '=' ∉ name)
    (htail : ∀ c ∈ tail.head?, c = '=') :
    s.long ((name ++ tail).map .scalar) =
      match Parameter.ofLong? (String.ofList name) with
      | none => s.unknownLong (RawText.lossy (name.map .scalar))
      | some p =>
        if p.takesValue then s.option p ((tail.map .scalar).tail?)
        else
          match (tail.map Utf8.Piece.scalar).tail? with
          | some value => .error (.fault (.unexpectedValue (RawText.lossy value) p s.seen))
          | none => s.flag p true := by
  have hpos : ∀ piece ∈ name.map Utf8.Piece.scalar, (!(piece == .scalar '=')) = true := by
    intro piece hpiece
    obtain ⟨c, hc, rfl⟩ := List.mem_map.mp hpiece
    have hne : Utf8.Piece.scalar c ≠ .scalar '=' := fun h => hname (Utf8.Piece.scalar.inj h ▸ hc)
    simpa using hne
  have htake : (tail.map Utf8.Piece.scalar).takeWhile (fun piece => !(piece == .scalar '=')) = [] := by
    cases tail with
    | nil => rfl
    | cons c tail =>
      obtain rfl := htail c rfl
      rfl
  have hdrop : (tail.map Utf8.Piece.scalar).dropWhile (fun piece => !(piece == .scalar '=')) =
      tail.map .scalar := by
    cases tail with
    | nil => rfl
    | cons c tail =>
      obtain rfl := htail c rfl
      rfl
  have htext : RawText.text? (name.map .scalar) = some (String.ofList name) := by
    rw [← ofString_ofList, RawText.text?_ofString]
  rw [long]
  simp only [List.map_append, List.takeWhile_append_of_pos hpos, List.dropWhile_append_of_pos hpos,
    htake, hdrop, List.append_nil, htext, Option.bind_some]
  rfl

theorem long_of_takesValue (s : Scan) {name tail : List Char} {p : Parameter} (hname : '=' ∉ name)
    (htail : ∀ c ∈ tail.head?, c = '=') (hp : Parameter.ofLong? (String.ofList name) = some p)
    (htakes : p.takesValue = true) :
    s.long ((name ++ tail).map .scalar) = s.option p ((tail.map .scalar).tail?) := by
  rw [long_eq s hname htail, hp]
  exact if_pos htakes

theorem cluster_attached (s : Scan) {c : Char} (hc : c ≠ '=') (cs : List Char) :
    s.cluster (('p' :: c :: cs).map .scalar) = s.option .policy (some ((c :: cs).map .scalar)) := by
  simp only [List.map_cons, cluster, Parameter.ofShort?, if_true, Parameter.takesValue]
  split
  · next heq => cases heq
  · next heq => exact absurd (Utf8.Piece.scalar.inj (List.cons.inj heq).1) hc
  · rfl

section Sound

variable (hs : s.pending = none)
include hs

/-- A value by itself goes to the parameter that waits for it. -/
theorem complete_of_waiting {p : Parameter} {item : String → Item} (hp : Makes p item) {value : String}
    (hvalue : IsPlain value) (arguments : List RawText) :
    ({ s with pending := some ⟨p, none⟩ } : Scan).complete (RawText.ofString value :: arguments) =
      (s.add (item value)).bind (·.complete arguments) := by
  rw [complete_word _ hvalue]
  exact complete_of_pending hs hp value arguments

theorem complete_of_letters {cs : List Char} {rest : List String} {items : List Item}
    (h : Letters cs rest items) (more : List RawText) :
    (s.cluster (cs.map .scalar)).toOption.bind (·.complete (rest.map RawText.ofString ++ more)) =
      (s.addAll items).bind (·.complete more) := by
  induction h generalizing s with
  | verbose =>
    show ((s.flag .verbose false >>= fun s => .ok s).toOption.bind _) = _
    rw [toOption_bind, toOption_flag_verbose hs, addAll_singleton]
    cases s.add .verbose <;> rfl
  | @attached c cs hc =>
    rw [cluster_attached s hc, option_some hs, ← ofString_ofList,
      toOption_insist_record makes_policy, addAll_singleton]
    rfl
  | @equals cs =>
    show ((s.option .policy (some (cs.map .scalar))).toOption.bind _) = _
    rw [option_some hs, ← ofString_ofList, toOption_insist_record makes_policy, addAll_singleton]
    rfl
  | @separate value hvalue =>
    show ((s.option .policy none).toOption.bind _) = _
    rw [option_none hs, addAll_singleton]
    exact complete_of_waiting hs makes_policy hvalue more
  | @bundled cs rest items _ ih =>
    show ((s.flag .verbose false >>= fun s => s.cluster (cs.map .scalar)).toOption.bind _) = _
    rw [toOption_bind, toOption_flag_verbose hs, addAll_cons]
    cases hadd : s.add .verbose with
    | none => rfl
    | some t => exact ih ((pending_add hadd).trans hs)

theorem complete_of_spelling {arguments : List String} {items : List Item}
    (h : Spelling arguments items) (more : List RawText) :
    s.complete (arguments.map RawText.ofString ++ more) =
      (s.addAll items).bind (·.complete more) := by
  cases h with
  | @hex value hvalue =>
    rw [List.map_singleton, List.singleton_append, addAll_singleton, complete_word _ hvalue, word, hs]
    exact bind_positional hs value more
  | @attached name value item hitem =>
    obtain ⟨p, hp, htakes, hmakes⟩ := makes_of_mem_namedOptions hitem
    have hname : '=' ∉ name.toList := (long_name_shape hp).2
    have hfirst : "--" ++ name ++ "=" ++ value =
        String.ofList ('-' :: '-' :: (name.toList ++ '=' :: value.toList)) := by
      rw [ofList_long_attached, String.ofList_toList, String.ofList_toList]
    rw [List.map_singleton, List.singleton_append, addAll_singleton, hfirst, complete_long s (by simp),
      long_of_takesValue s hname (by simp) (by rwa [String.ofList_toList]) htakes]
    show (s.option p (some (RawText.ofString value))).toOption.bind _ = _
    rw [option_some hs, toOption_insist_record hmakes]
  | @separate name value item hitem hvalue =>
    obtain ⟨p, hp, htakes, hmakes⟩ := makes_of_mem_namedOptions hitem
    obtain ⟨hne, hname⟩ := long_name_shape hp
    have hfirst : "--" ++ name = String.ofList ('-' :: '-' :: name.toList) := by
      rw [ofList_long, String.ofList_toList]
    have hlong : s.long ((name.toList ++ []).map .scalar) = s.option p none :=
      long_of_takesValue s hname (by simp) (by rwa [String.ofList_toList]) htakes
    rw [List.append_nil] at hlong
    rw [List.map_cons, List.map_singleton, List.cons_append, List.singleton_append, addAll_singleton,
      hfirst, complete_long s hne, hlong, option_none hs]
    exact complete_of_waiting hs hmakes hvalue more
  | verbose =>
    have hlong : s.long ("verbose".toList.map .scalar) = s.flag .verbose true := by rfl
    have hfirst : "--verbose" = String.ofList ('-' :: '-' :: "verbose".toList) := by rfl
    rw [List.map_singleton, List.singleton_append, addAll_singleton, hfirst,
      complete_long s (by decide), hlong, toOption_flag_verbose hs]
  | @letters cs rest items hletters =>
    have hfirst : ∃ c ds, cs = c :: ds ∧ c ≠ '-' := by
      cases hletters with
      | verbose => exact ⟨_, _, rfl, by decide⟩
      | attached => exact ⟨_, _, rfl, by decide⟩
      | equals => exact ⟨_, _, rfl, by decide⟩
      | separate => exact ⟨_, _, rfl, by decide⟩
      | bundled => exact ⟨_, _, rfl, by decide⟩
    obtain ⟨c, ds, rfl, hc⟩ := hfirst
    rw [List.map_cons, List.cons_append, complete_cluster s hc]
    exact complete_of_letters hs hletters more

end Sound

end Scan

end ByteInspector.CommandLine
