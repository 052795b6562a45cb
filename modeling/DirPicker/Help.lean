import DirPicker.CommandLine

/-!
# Help

What the program says about itself and about faults in its command line.
-/

namespace DirPicker.Help

open CommandLine

/-- The name of the program and its version. -/
def version : Text := "hcd 0.0.0".toList

def usage : Text := "Usage: hcd [OPTIONS] [QUERY]".toList

/-- The option that a fault speaks of, as the help shows it. -/
def parameterUsage (parameter : Parameter) : Text :=
  '-' :: '-' :: parameter.name ++
    match parameter with
    | .history => " <FILE>".toList
    | .pin => " <DIR>".toList
    | .hide => " <DIR>".toList
    | .workspace => " <KIND=PATTERN>".toList
    | .pick => " <INDEX>".toList

def lines : List Text :=
  ["Pick a directory from your history and go there.",
    "",
    "Prints the chosen directory on stdout; wrap it in a shell function that runs",
    "`cd \"$(hcd ...)\"`.",
    "",
    "Usage: hcd [OPTIONS] [QUERY]",
    "",
    "Arguments:",
    "  [QUERY]  Initial filter text. `a/b` matches `a`, then a separator, then `b`",
    "",
    "Options:",
    "      --history <FILE>            Directory listing, one `<score> <path>` per line;",
    "                                  `-` reads stdin [env: HCD_HISTORY]",
    "      --pin <DIR>                 Directory always listed first; without any, read",
    "                                  from HCD_PINNED (`:`-separated)",
    "      --hide <DIR>                Directory never listed; without any, read from",
    "                                  HCD_HIDDEN (`:`-separated)",
    "      --workspace <KIND=PATTERN>  Workspace kind and the pattern matching its root,",
    "                                  tried in order; without any, read from",
    "                                  HCD_WORKSPACES (`;`-separated), where malformed",
    "                                  items are skipped",
    "      --list                      Print the filtered rows and exit",
    "      --pick <INDEX>              Accept row INDEX of the filtered list without",
    "                                  opening the picker",
    "  -h, --help                      Print help",
    "  -V, --version                   Print version"].map String.toList

def text : Text := Text.joinWith ['\n'] lines ++ ['\n']

def faultText : Fault → Text
  | .unknown argument => "unexpected argument '".toList ++ argument ++ "' found".toList
  | .valueMissing parameter =>
    "a value is required for '".toList ++ parameterUsage parameter ++
      "' but none was supplied".toList
  | .valueInvalid parameter value =>
    "invalid value '".toList ++ value ++ "' for '".toList ++ parameterUsage parameter ++ ['\'']
  | .valueUnwanted switch value =>
    "unexpected value '".toList ++ value ++ "' for '--".toList ++ switch.name ++
      "' found; no more were expected".toList
  | .parameterRepeated parameter =>
    "the argument '".toList ++ parameterUsage parameter ++
      "' cannot be used multiple times".toList
  | .listRepeated => "the argument '--list' cannot be used multiple times".toList
  | .listWithPick => "the argument '--list' cannot be used with '--pick <INDEX>'".toList

def complaint (fault : Fault) : List Text :=
  ["error: ".toList ++ faultText fault, [], usage, [], "For more information, try '--help'.".toList]

end DirPicker.Help
