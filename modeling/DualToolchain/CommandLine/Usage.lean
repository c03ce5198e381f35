import DualToolchain.CommandLine.Option

/-! The texts that explain the command line. -/

namespace DualToolchain.CommandLine

def program : String := "toolchain-matrix"

def versionText : String :=
  program ++ " 1.0.0\n"

def usage : String :=
  "usage: toolchain-matrix [-h] [--list] [--dry-run] [--capture | --no-capture]\n" ++
  "                        [--receipt-dir RECEIPT_DIR]\n" ++
  "                        [--project-dir PROJECT_DIR] [--verbose] [--version]\n" ++
  "                        [TARGET ...]\n"

def helpText : String :=
  usage ++ "\n" ++
  "Build and test a project against a pinned and the stable toolchain.\n" ++
  "\n" ++
  "positional arguments:\n" ++
  "  TARGET                Targets to run in order (default: all). See --list.\n" ++
  "\n" ++
  "options:\n" ++
  "  -h, --help            show this help message and exit\n" ++
  "  --list                List targets and exit\n" ++
  "  --dry-run             Print commands without running them\n" ++
  "  --capture, --no-capture\n" ++
  "                        Capture toolchain output (relayed after each command,\n" ++
  "                        logged with the receipt); --no-capture forces pass-\n" ++
  "                        through\n" ++
  "  --receipt-dir RECEIPT_DIR\n" ++
  "                        Write run_receipt.json here\n" ++
  "  --project-dir PROJECT_DIR\n" ++
  "                        Run the toolchain in this directory\n" ++
  "  --verbose, -v\n" ++
  "  --version             show program's version number and exit\n"

/-- What is printed before the program ends for a usage error. -/
def errorText (message : String) : String :=
  usage ++ program ++ ": error: " ++ message ++ "\n"

end DualToolchain.CommandLine
