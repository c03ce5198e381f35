/-! What one call of the toolchain gave. -/

namespace DualToolchain

/-- The outcome of one command. A launch error is set when the program never started. -/
structure Completion where
  exitCode : Int
  stdout : String := ""
  stderr : String := ""
  durationMs : Int := 0
  launchError : Option String := none
  deriving DecidableEq

def Completion.isOk (c : Completion) : Bool :=
  c.exitCode == 0

/-- The exit code of a run that stops at this command, never zero. -/
def Completion.runExitCode (c : Completion) : Int :=
  if 0 < c.exitCode then c.exitCode else 1

end DualToolchain
