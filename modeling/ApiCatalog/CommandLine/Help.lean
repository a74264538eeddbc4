import ApiCatalog.CommandLine.Options

/-!
# Usage and help

The texts a command line is answered with when it is wrong or asks for help.
-/

namespace ApiCatalog.CommandLine

/-- The program's name. -/
def programName : String := "libm-analyze"

/-- How the program is called. -/
def usage : String :=
  String.intercalate "\n"
    ["usage: libm-analyze [-h] [--ignore IGNORE] [--ext EXTENSIONS]",
      "                    [--config CONFIG] [--no-config] " ++
        "[--format \x7btoml,json\x7d]",
      "                    [--output OUTPUT] [--report] [--strict] " ++
        "[--allow-unsafe]",
      "                    [-v]",
      "                    root",
      ""]

/-- The table of options. -/
def optionHelp : String :=
  String.intercalate "\n"
    ["positional arguments:",
      "  root                  Source directory to scan",
      "",
      "options:",
      "  -h, --help            show this help message and exit",
      "  --ignore IGNORE       Comma-separated function names to leave out (e.g.,",
      "                        'jnf,jn')",
      "  --ext EXTENSIONS      Source file extension (can be specified multiple",
      "                        times, default: .rs)",
      "  --config CONFIG       Path to .libm-analyze.toml (auto-discovered if not",
      "                        specified)",
      "  --no-config           Disable auto-discovery of .libm-analyze.toml files",
      "  --format \x7btoml,json\x7d  Catalog output format (default: toml)",
      "  --output OUTPUT, -o OUTPUT",
      "                        Output file (default: stdout)",
      "  --report              Print one diagnostic line per validation error",
      "  --strict              Exit with an error if any validation error was",
      "                        recorded",
      "  --allow-unsafe        Report `unsafe fn` declarations but keep them in the",
      "                        catalog",
      "  -v, --verbose         Enable verbose logging",
      ""]

/-- Examples of use. -/
def examples : String :=
  String.intercalate "\n"
    ["Catalog the public C-ABI functions of a libm source tree.",
      "",
      "Usage:",
      "    # Print the catalog of libm/src as TOML",
      "    libm-analyze crates/libm/src",
      "",
      "    # Skip jnf, print diagnostics, write JSON",
      "    libm-analyze crates/libm/src --ignore jnf --report \\",
      "        --format json --output catalog.json",
      "",
      "    # Fail when any declaration breaks a rule",
      "    libm-analyze crates/libm/src --strict",
      ""]

/-- The whole help. -/
def help : String :=
  usage ++ "\nExtract and validate the public API of a libm source tree\n\n" ++
    optionHelp ++ "\n" ++ examples

/-- The answer to a wrong command line. -/
def usageAnswer (e : UsageError) : String :=
  usage ++ programName ++ ": error: " ++ e.message ++ "\n"

end ApiCatalog.CommandLine
