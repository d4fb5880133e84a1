import CrossStitch.Command.Arguments

/-! What the program says about its own command line. -/

namespace CrossStitch

def programName : String := "stitch"

def versionText : String := programName ++ " 0.4.1"

/-- The options with their meanings, one line each. -/
def optionHelp : List (String × String) := [
  ("-i, --input <FILE>", "Chart file to read (stdin when omitted)"),
  ("-o, --output <FILE>", "File to write the rendered chart to (stdout when omitted)"),
  ("-f, --format <FORMAT>", "Output format [possible values: ascii, html]"),
  ("    --option <KEY=VALUE>", "Render option as key=value (repeatable)"),
  ("    --config <FILE>", "Config file (defaults to ./stitch.yaml when present)"),
  ("-v, --verbose", "Log the files that are included"),
  ("    --completions <SHELL>", "Print shell completions and exit"),
  ("-h, --help", "Print help"),
  ("-V, --version", "Print version")]

def helpText : String :=
  "Cross-stitch chart compiler\n\nUsage: " ++ programName ++ " [OPTIONS]\n\nOptions:\n" ++
    String.join (optionHelp.map fun (option, meaning) =>
      "  " ++ option ++ "\n          " ++ meaning ++ "\n")

def UsageFault.message : UsageFault → String
  | .invalidValue => "invalid or missing value for an option"
  | .unknownArgument => "unexpected argument"
  | .argumentConflict => "an option is given more than once"
  | .tooManyValues => "a flag takes no value"
  | .displayHelp => helpText
  | .displayVersion => versionText

/-- The words a shell can complete. -/
def completionWords : String :=
  "--input --output --format --option --config --verbose --completions --help --version"

/-- A script that makes a shell complete the options. -/
def completionScript : Shell → String
  | .bash => "complete -W '" ++ completionWords ++ "' " ++ programName ++ "\n"
  | .zsh => "#compdef " ++ programName ++ "\ncompadd -- " ++ completionWords ++ "\n"
  | .fish => "complete -c " ++ programName ++ " -a '" ++ completionWords ++ "'\n"
  | .elvish => "set edit:completion:arg-completer[" ++ programName ++ "] = \x7b|@words| put " ++
      completionWords ++ " \x7d\n"
  | .powershell => "Register-ArgumentCompleter -Native -CommandName " ++ programName ++
      " -ScriptBlock \x7b '" ++ completionWords ++ "' -split ' ' \x7d\n"

/-- The line that reports a chart written to a file. -/
def statusLine (path summary : String) : String :=
  "    Rendered " ++ path ++ " (" ++ summary ++ ")"

end CrossStitch
