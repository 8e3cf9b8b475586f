import ByteInspector.CommandLine.Usage

/-! # Help texts

The short text has a line for each parameter, the long one a paragraph. Both show the value of the
variable that stands in for the hex text, made plain as the place where the text goes asks. A terminal
sequence that the value leaves open runs on behind it, up to the heading of the options.
-/
namespace ByteInspector.CommandLine

def versionText : String := programName ++ " 0.1.0\n"

def variableName : String := "HEXPEEK_HEX"

def variableNote (value : String) : String := "[env: " ++ variableName ++ "=" ++ value ++ "]"

def helpHead : String :=
  "Decode a hex string and eyeball it as lossy UTF-8 text and escaped raw bytes\n\nUsage: " ++
    usageLine [] ++ "\n\n"

/-- A description in its column: all lines but the first are indented, blank ones too. -/
def inColumn (indent : Nat) (description : String) : String :=
  ("\n" ++ String.ofList (List.replicate indent ' ')).intercalate (description.splitOn "\n")

def shortHelp (plain : String → String) (value : String) : String :=
  helpHead ++ "Arguments:\n  [HEX]  " ++
    plain (inColumn 9 ("Hex string to inspect " ++ variableNote value) ++ "\n\n") ++
    "Options:\n" ++
    "  -p, --policy <POLICY>  How invalid UTF-8 is rendered (ignore, replace) [default: ignore]\n" ++
    "  -v, --verbose          Enable verbose output\n" ++
    "      --format <FORMAT>  Output format (text, json) [default: text]\n" ++
    "  -h, --help             Print help (see more with '--help')\n" ++
    "  -V, --version          Print version\n"

def longEntry (head description : String) : String :=
  "  " ++ head ++ "\n          " ++ inColumn 10 description ++ "\n"

def longHelp (plain : String → String) (value : String) : String :=
  helpHead ++ "Arguments:\n" ++
    plain
      (longEntry "[HEX]"
        ("Hex string to inspect.\n\n" ++
          "Defaults to the empty Redis snapshot sent during replica sync.\n\n" ++
          variableNote value) ++ "\n") ++
    "Options:\n" ++
    String.intercalate "\n"
      [longEntry "-p, --policy <POLICY>"
          "How invalid UTF-8 is rendered (ignore, replace)\n\n[default: ignore]",
        longEntry "-v, --verbose" "Enable verbose output",
        longEntry "    --format <FORMAT>" "Output format (text, json)\n\n[default: text]",
        longEntry "-h, --help" "Print help (see a summary with '-h')",
        longEntry "-V, --version" "Print version"]

end ByteInspector.CommandLine
