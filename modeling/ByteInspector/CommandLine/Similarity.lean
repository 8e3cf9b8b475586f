import ByteInspector.CommandLine.Parameter

/-! # Similar names

The Jaro similarity of two texts averages three shares: of the characters of each text that have an
equal partner in the other, not too far away, and of the partners that stand in the same order.
-/
namespace ByteInspector.CommandLine

/-- A character that may already have its partner. -/
abbrev Slot := Char × Bool

def claimSlot (c : Char) (low high : Nat) (place : Nat) : List Slot → Option (List Slot)
  | [] => none
  | slot :: rest =>
    if low ≤ place ∧ place ≤ high ∧ slot.2 = false ∧ slot.1 = c then some ((c, true) :: rest)
    else (claimSlot c low high (place + 1) rest).map (slot :: ·)

def partners (reach : Nat) (slots : List Slot) (place : Nat) : List Char → List Char × List Slot
  | [] => ([], slots)
  | c :: rest =>
    match claimSlot c (place - reach) (place + reach) 0 slots with
    | none => partners reach slots (place + 1) rest
    | some taken =>
      let found := partners reach taken (place + 1) rest
      (c :: found.1, found.2)

def similarity (a b : List Char) : Float :=
  if a.isEmpty && b.isEmpty then 1.0
  else if a.isEmpty || b.isEmpty then 0.0
  else
    let reach := max a.length b.length / 2 - 1
    let found := partners reach (b.map (·, false)) 0 a
    let matched := found.1.length
    let crossed := ((found.1.zip ((found.2.filter (·.2)).map (·.1))).filter
      fun pair => pair.1 != pair.2).length / 2
    if matched = 0 then 0.0
    else
      (matched.toFloat / a.length.toFloat + matched.toFloat / b.length.toFloat +
        (matched - crossed).toFloat / matched.toFloat) / 3.0

/-- The parameter whose long name is most similar to the text, above a threshold; of equals the last
in the order of the help text. -/
def Parameter.similarTo (name : String) : Option Parameter :=
  let best := Parameter.longNames.foldl
    (fun (best : Option (Float × Parameter)) entry =>
      let score := similarity name.toList entry.1.toList
      if score > 0.7 then
        match best with
        | none => some (score, entry.2)
        | some (high, _) => if score ≥ high then some (score, entry.2) else best
      else best) none
  best.map (·.2)

end ByteInspector.CommandLine
