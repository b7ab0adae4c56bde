/-! What the command line says about itself. -/

namespace AttrHoist.Command

/-- How the command is called. -/
def usage : String :=
  "usage: hoister [-h] [--prop-regex PROP_REGEX]\n" ++
  "               [--language \x7btsx,typescript,javascript\x7d] [--write] [--verbose]\n" ++
  "               files [files ...]\n"

/-- The help text. -/
def help : String :=
  usage ++
  "\n" ++
  "Hoist constant attribute values out of component render functions\n" ++
  "\n" ++
  "positional arguments:\n" ++
  "  files                 Source files to rewrite\n" ++
  "\n" ++
  "options:\n" ++
  "  -h, --help            show this help message and exit\n" ++
  "  --prop-regex PROP_REGEX, -p PROP_REGEX\n" ++
  "                        Only hoist values of attributes whose name matches\n" ++
  "                        (default: all)\n" ++
  "  --language \x7btsx,typescript,javascript\x7d, -l \x7btsx,typescript,javascript\x7d\n" ++
  "                        Grammar to parse with (default: chosen from the file\n" ++
  "                        extension)\n" ++
  "  --write, -w           Rewrite files in place instead of printing them\n" ++
  "  --verbose, -v         Log every hoisting decision\n"

/-- An error report with the usage before it. -/
def complaint (text : String) : String :=
  usage ++ "hoister: error: " ++ text ++ "\n"

end AttrHoist.Command
