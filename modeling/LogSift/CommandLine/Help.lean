/-!
# Help

What the program says about its own use.
-/

namespace LogSift.CommandLine

/-- How the program is called. -/
def usage : String := "usage: problem-matcher [-h] \x7bfile,output\x7d ...\n"

/-- The help for the program. -/
def helpText : String := usage ++ "
Extract diagnostics from compiler and linter output using a problem matcher

commands:
  file                  Match tool output read from a file, or from standard input for '-'
  output                Match tool output given as an argument

options of both commands:
  -h, --help            show this help
  --matcher, -m MATCHER
                        Matcher file (.json, .yaml or .yml)
  --owner OWNER         Owner of the matcher to use when the file defines several
  --format \x7bsummary,json\x7d
                        Output format (default: summary)
  --output, -o OUTPUT   Output file (default: stdout)
  --strip-ansi          Remove terminal color codes before matching
  --debug               Enable debug output
"

end LogSift.CommandLine
