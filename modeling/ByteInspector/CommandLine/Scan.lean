import ByteInspector.CommandLine.Help
import ByteInspector.Text.Plain

/-! # Reading the command line

Arguments are read from left to right, and the first fault ends the reading. A value is not judged
when it is met but when the next parameter settles it: an argument that is not known goes before a
fault of the value that stands just before it.
-/
namespace ByteInspector.CommandLine

inductive Stop where
  | fault (fault : UsageFault)
  | help (long : Bool)
  | version
  deriving DecidableEq, Repr

/-- A parameter that waits to be settled, with its value or still without one. -/
structure Pending where
  parameter : Parameter
  value : Option RawText
  deriving DecidableEq, Repr

/-- What has been read. The parameters seen are in the order in which they were settled. -/
structure Scan where
  settings : Settings := {}
  seen : List Parameter := []
  pending : Option Pending := none
  deriving DecidableEq, Repr

def assign (s : Settings) (value : String) : Parameter → Settings
  | .hex => { s with hex := some value }
  | .policy => { s with policy := value }
  | .format => { s with format := value }
  | .verbose | .help | .version => s

namespace Scan

def record (s : Scan) (p : Parameter) (value : RawText) : Scan × Option UsageFault :=
  if s.seen.contains p then ({ s with seen := s.seen.erase p }, some (.repeated p))
  else
    match value.text? with
    | none => ({ s with seen := s.seen ++ [p] }, some .malformedText)
    | some text =>
      ({ s with seen := s.seen ++ [p], settings := assign s.settings text p }, none)

def settle (s : Scan) : Scan × Option UsageFault :=
  match s.pending with
  | none => (s, none)
  | some ⟨p, none⟩ => ({ s with pending := none }, some (.missingValue p))
  | some ⟨p, some value⟩ => { s with pending := none }.record p value

def insist (judged : Scan × Option UsageFault) : Except Stop Scan :=
  match judged.2 with
  | some fault => .error (.fault fault)
  | none => .ok judged.1

def settled (s : Scan) : Except Stop Scan := insist s.settle

/-- An argument that is not known, whatever is wrong with the value that waits. -/
def unknown (argument : String) (hint : Hint) : Except Stop Scan :=
  .error (.fault (.unknownArgument argument hint []))

def unknownLong (s : Scan) (name : String) : Except Stop Scan :=
  let seen := s.settle.1.seen
  let fault :=
    match Parameter.similarTo name with
    | some p => UsageFault.unknownArgument ("--" ++ name) (.similar p) (seen ++ [p])
    | none => .unknownArgument ("--" ++ name) .asValue seen
  .error (.fault fault)

def flag (s : Scan) (p : Parameter) (long : Bool) : Except Stop Scan := do
  let s ← s.settled
  match p with
  | .help => .error (.help long)
  | .version => .error .version
  | _ =>
    if s.seen.contains p then .error (.fault (.repeated p))
    else .ok { s with seen := s.seen ++ [p], settings := { s.settings with verbose := true } }

def option (s : Scan) (p : Parameter) (attached : Option RawText) : Except Stop Scan := do
  let s ← s.settled
  match attached with
  | some value => insist (s.record p value)
  | none => .ok { s with pending := some ⟨p, none⟩ }

def long (s : Scan) (body : RawText) : Except Stop Scan :=
  let isEquals : Utf8.Piece → Bool := (· == .scalar '=')
  let name : RawText := body.takeWhile (!isEquals ·)
  let attached : Option RawText := (body.dropWhile (!isEquals ·)).tail?
  match name.text?.bind Parameter.ofLong? with
  | none => s.unknownLong name.lossy
  | some p =>
    if p.takesValue then s.option p attached
    else
      match attached with
      | some value => .error (.fault (.unexpectedValue value.lossy p s.seen))
      | none => s.flag p true

/-- Letters behind one dash. The rest behind an option's letter is its value, less one `=`. -/
def cluster (s : Scan) : RawText → Except Stop Scan
  | [] => .ok s
  | .malformed bs :: rest => unknown ("-" ++ RawText.lossy (.malformed bs :: rest)) .asValue
  | .scalar c :: rest =>
    match Parameter.ofShort? c with
    | none => unknown (String.ofList ['-', c]) .asValue
    | some p =>
      if p.takesValue then
        match rest with
        | [] => s.option p none
        | .scalar '=' :: value => s.option p (some value)
        | value => s.option p (some value)
      else do
        let s ← s.flag p false
        s.cluster rest

def positional (s : Scan) (value : RawText) : Except Stop Scan :=
  if s.settle.1.seen.contains .hex then unknown value.lossy .nothing
  else do
    let s ← s.settled
    .ok { s with pending := some ⟨.hex, some value⟩ }

/-- An argument without a leading dash, or the dash alone: the value of an option that waits for one,
else a value without a name. -/
def word (s : Scan) (value : RawText) : Except Stop Scan :=
  match s.pending with
  | some ⟨p, none⟩ => .ok { s with pending := some ⟨p, some value⟩ }
  | _ => s.positional value

def argument (s : Scan) : RawText → Except Stop Scan
  | .scalar '-' :: .scalar '-' :: body => s.long body
  | .scalar '-' :: c :: rest => s.cluster (c :: rest)
  | value => s.word value

def arguments (s : Scan) : List RawText → Except Stop Scan
  | [] => .ok s
  | first :: rest =>
    if first = [.scalar '-', .scalar '-'] then rest.foldlM positional s
    else do
      let s ← s.argument first
      s.arguments rest

end Scan

/-- The settings that the arguments ask for. The variable counts only where no hex text was given,
and has to be text only then. -/
def parse (arguments : List RawText) (hexVariable : Option RawText) : Except Stop Settings := do
  let s ← Scan.arguments {} arguments
  let s ← s.settled
  match s.settings.hex, hexVariable with
  | none, some value =>
    match value.text? with
    | some text => .ok { s.settings with hex := some text }
    | none => .error (.fault .malformedText)
  | _, _ => .ok s.settings

namespace Stop

def text (plain : String → String) (hexVariable : Option RawText) : Stop → String
  | .fault f => f.message plain
  | .help long =>
    let value := (hexVariable.map RawText.lossy).getD ""
    if long then longHelp plain value else shortHelp plain value
  | .version => versionText

def message (stop : Stop) (hexVariable : Option RawText) : String := stop.text Text.plain hexVariable

def printed (stop : Stop) (hexVariable : Option RawText) : String :=
  stop.text Text.streamed hexVariable

def isFault : Stop → Bool
  | .fault _ => true
  | .help _ | .version => false

def exitCode (stop : Stop) : Nat := if stop.isFault then 2 else 0

end Stop

end ByteInspector.CommandLine
