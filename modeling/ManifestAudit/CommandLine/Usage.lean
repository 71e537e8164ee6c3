import ManifestAudit.CommandLine.Arguments

/-!
# Usage texts

What the program prints about itself.
-/

namespace ManifestAudit.CommandLine

/-- How the program is called. -/
def usage : String :=
  "usage: gfp-doctor [-h] [--package-path PACKAGE_PATH] [--format \x7btext,json\x7d]\n" ++
    "                  [--out OUTPUT_PATH] [--fail-on-missing] [-v] [--version]\n"

/-- The help text. -/
def help : String :=
  usage ++
    "\n" ++
    "Check package.json against gfp best practices\n" ++
    "\n" ++
    "options:\n" ++
    "  -h, --help            show this help message and exit\n" ++
    "  --package-path PACKAGE_PATH\n" ++
    "                        Path to package.json, relative to the current\n" ++
    "                        directory.\n" ++
    "  --format \x7btext,json\x7d  Report format (defaults to text).\n" ++
    "  --out OUTPUT_PATH, --output OUTPUT_PATH\n" ++
    "                        Path to write the JSON report (e.g.,\n" ++
    "                        artifacts/doctor.json).\n" ++
    "  --fail-on-missing     Exit non-zero when package.json cannot be found.\n" ++
    "  -v, --verbose         Increase log verbosity for troubleshooting.\n" ++
    "  --version             show program's version number and exit\n"

/-- The version text. -/
def version : String :=
  "gfp-doctor 0.1.0\n"

/-- What is printed about arguments that are refused. -/
def UsageError.text (error : UsageError) : String :=
  usage ++ "gfp-doctor: error: " ++ error.message ++ "\n"

end ManifestAudit.CommandLine
