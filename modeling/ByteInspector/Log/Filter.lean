import ByteInspector.Log
import ByteInspector.RawText

/-! # Log filters

A filter is a list of directives, each a level for the sources whose path begins with its target. The
longest target that fits decides; of two directives for one target the later counts. Where no
directive fits, nothing is logged.
-/
namespace ByteInspector.Log

/-- A directive without a target fits every source; without a level it silences. -/
structure Directive where
  target : Option String
  level : Option Level
  deriving DecidableEq, Repr

/-- A level named in any case or numbered from 0, which is silence. -/
def levelOf? (text : String) : Option (Option Level) :=
  match text.toLower with
  | "off" => some none
  | "error" => some (some .error)
  | "warn" => some (some .warn)
  | "info" => some (some .info)
  | "debug" => some (some .debug)
  | "trace" => some (some .trace)
  | _ =>
    let digits := match text.toList with
      | '+' :: rest => rest
      | cs => cs
    if digits.isEmpty || !digits.all Char.isDigit then none
    else
      match Nat.ofDigitChars 10 digits 0 with
      | 0 => some none
      | 1 => some (some .error)
      | 2 => some (some .warn)
      | 3 => some (some .info)
      | 4 => some (some .debug)
      | 5 => some (some .trace)
      | _ => none

/-- Characters that may open a directive; every character outside ASCII is taken for a letter. -/
def opensDirective (c : Char) : Bool :=
  c.isAlphanum || c == '-' || c == ':' || c == '_' || c.toNat ≥ 0x80

namespace Directive

/-- A target and a level joined by `=`, or either alone; a target without a level logs all. -/
def ofText? (text : String) : Option Directive :=
  let cs := text.toList
  if cs.contains '[' then none
  else if cs.contains '=' then
    let target := cs.takeWhile (· != '=')
    let level := String.ofList ((cs.dropWhile (· != '=')).drop 1)
    match target.head? with
    | none => none
    | some c =>
      if !opensDirective c then none
      else if level = "" then some ⟨some (String.ofList target), some .trace⟩
      else (levelOf? level).map fun l => ⟨some (String.ofList target), l⟩
  else
    match (cs.dropWhile Char.isWhitespace).head? with
    | none => none
    | some c =>
      if !opensDirective c then none
      else
        match levelOf? text with
        | some level => some ⟨none, level⟩
        | none => some ⟨some text, some .trace⟩

def fits (d : Directive) (origin : String) : Bool :=
  match d.target with
  | none => true
  | some target => target.toList.isPrefixOf origin.toList

def weight (d : Directive) : Nat :=
  match d.target with
  | none => 0
  | some target => target.length + 1

end Directive

abbrev Filter := List Directive

namespace Filter

def ofLevel (level : Level) : Filter := [⟨none, some level⟩]

/-- Directives stand between commas; empty ones are skipped, and one that cannot be read spoils the
whole filter. -/
def ofText? (text : String) : Option Filter :=
  ((text.splitOn ",").filter (· != "")).mapM Directive.ofText?

def choose (setting : Option RawText) (verbose : Bool) : Filter :=
  ((setting.bind RawText.text?).bind ofText?).getD (ofLevel (.default verbose))

/-- The directive that decides: the heaviest that fits, the last of equals. -/
def deciding (filter : Filter) (origin : String) : Option Directive :=
  (filter.filter (·.fits origin)).foldl
    (fun best d =>
      match best with
      | none => some d
      | some b => if b.weight ≤ d.weight then some d else some b) none

def enables (filter : Filter) (e : Event) : Bool :=
  match (filter.deciding source).bind Directive.level with
  | none => false
  | some level => e.level.number ≤ level.number

end Filter

end ByteInspector.Log
