/-!
# Usage

What the program says about itself.
-/

namespace CollectionProfile.Command

/-- The name of the program. -/
def programName : String := "ca-profile"

/-- The version of the program. -/
def programVersion : String := "0.1.0"

/-- The line that tells name and version. -/
def versionLine : String := programName ++ " " ++ programVersion ++ "\n"

/-- How the program is called. -/
def usage : String := "\n".intercalate
  ["Usage: " ++ programName ++ " [OPTIONS] <COMMAND>",
    "",
    "Commands:",
    "  summary PROFILE [--json]          Print how much a profile holds",
    "  tables PROFILE                    List tables with their field counts",
    "  fields PROFILE TABLE [--json]     List the fields of one table in output order",
    "  relations PROFILE                 List relationship types",
    "  mapping PROFILE SELECTION         Write export mappings",
    "    [--convention technical|readable] [--no-relations] [--output-dir DIR]",
    "  schema PROFILE SELECTION          Write schema documents [--output-dir DIR]",
    "",
    "Selection: one of --table TABLE, --all (one file for each table), --combined (one file)",
    "",
    "Options:",
    "  -v, --verbose          Log more; may be repeated",
    "  -q, --quiet            Log less; may be repeated",
    "      --log-level LEVEL  error, warn, info, debug or trace",
    "      --log-format FORM  pretty, compact or json",
    "      --log-file PATH    Log to a file instead of standard error",
    "      --color WHEN       auto, always or never",
    "  -h, --help             Print this text",
    "  -V, --version          Print the version",
    ""]

end CollectionProfile.Command
