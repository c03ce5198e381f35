import DualToolchain.Completion

/-! Verdicts on completions. They are recorded and never steer a run: every failure ends it. -/

namespace DualToolchain

inductive Status where
  | success | failed | skipped
  deriving DecidableEq

def Status.text : Status → String
  | .success => "SUCCESS"
  | .failed => "FAILED"
  | .skipped => "SKIPPED"

inductive Reason where
  | unknownTarget | toolchainNotFound | invocationFailed
  deriving DecidableEq

def Reason.text : Reason → String
  | .unknownTarget => "UNKNOWN_TARGET"
  | .toolchainNotFound => "TOOLCHAIN_NOT_FOUND"
  | .invocationFailed => "INVOCATION_FAILED"

/-! ### The mark of a missing toolchain -/

def markStart : List Char := "toolchain '".toList

def markEnd : List Char := "' is not installed".toList

/-- Whether the text begins with the mark: its start, a name of at least one character without a
single quote, and its end. -/
def beginsWithMark (cs : List Char) : Bool :=
  markStart.isPrefixOf cs &&
    let rest := cs.drop markStart.length
    let name := rest.takeWhile (· != '\'')
    !name.isEmpty && markEnd.isPrefixOf (rest.drop name.length)

def holdsMark : List Char → Bool
  | [] => false
  | c :: cs => beginsWithMark (c :: cs) || holdsMark cs

/-! ### Judging -/

structure Verdict where
  status : Status
  reasons : List Reason
  deriving DecidableEq

/-- A missing toolchain is told from other failures only when there is evidence of it: the program
did not start, or its standard error holds the mark. -/
def Completion.judge (c : Completion) : Verdict :=
  if c.exitCode = 0 then ⟨.success, []⟩
  else if c.launchError.isSome || holdsMark c.stderr.toList then ⟨.failed, [.toolchainNotFound]⟩
  else ⟨.failed, [.invocationFailed]⟩

end DualToolchain
