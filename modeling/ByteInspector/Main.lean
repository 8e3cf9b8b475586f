import ByteInspector.Program

/-! # The command

Reads arguments and environment, carries out the plan of the run, and gives its exit code.
-/
namespace ByteInspector.Command

def printText (stream : IO.FS.Stream) (text : String) : IO Unit := do
  try
    stream.putStr text
    stream.flush
  catch _ => pure ()

def isBrokenPipe : IO.Error → Bool
  | .resourceVanished .. => true
  | _ => false

def describe : IO.Error → String
  | .resourceExhausted _ code details | .hardwareFault code details =>
    details ++ " (os error " ++ toString code ++ ")"
  | error => toString error

def setting (name : String) : IO (Option RawText) := do
  return (← IO.getEnv name).map RawText.ofString

def environment : IO Environment := do
  return ⟨← setting CommandLine.variableName, ← setting "RUST_LOG", ← setting "NO_COLOR"⟩

def offer (stream : IO.FS.Stream) (document : String) : IO (Option IoError) := do
  try
    stream.putStr document
    stream.flush
    return none
  catch error =>
    return if isBrokenPipe error then none else some ⟨.other, describe error⟩

def run (arguments : List String) : IO UInt32 := do
  let plan := Plan.ofArguments (← environment) (arguments.map RawText.ofString)
  let err ← IO.getStderr
  printText err plan.logText
  let failure ← match plan.ending.document? with
    | none => pure none
    | some document => offer (← IO.getStdout) document
  let (status, complaint) := plan.ending.conclusion failure
  printText err complaint
  return status.toUInt32

end ByteInspector.Command

def main (arguments : List String) : IO UInt32 := ByteInspector.Command.run arguments
