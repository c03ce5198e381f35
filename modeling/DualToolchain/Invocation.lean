import DualToolchain.Text.Quoted

/-! One call of the toolchain and its command line. -/

namespace DualToolchain

inductive Operation where
  | build | test
  deriving DecidableEq

/-- The build mode. -/
inductive Configuration where
  | debug | release
  deriving DecidableEq

inductive Verbosity where
  | default | verbose | quiet
  deriving DecidableEq

def Operation.text : Operation → String
  | .build => "build"
  | .test => "test"

def Configuration.text : Configuration → String
  | .debug => "debug"
  | .release => "release"

def Verbosity.text : Verbosity → String
  | .default => "default"
  | .verbose => "verbose"
  | .quiet => "quiet"

def Operation.ofText? (s : String) : Option Operation :=
  [.build, .test].find? (·.text == s)

def Configuration.ofText? (s : String) : Option Configuration :=
  [.debug, .release].find? (·.text == s)

def Verbosity.ofText? (s : String) : Option Verbosity :=
  [.default, .verbose, .quiet].find? (·.text == s)

/-- A call of the toolchain that a selector names. -/
structure Invocation where
  selector : String
  operation : Operation
  configuration : Configuration := .debug
  verbosity : Verbosity := .default
  deriving DecidableEq

/-- A text that names no operation, configuration or verbosity. -/
inductive InvocationFault where
  | operation (text : String)
  | configuration (text : String)
  | verbosity (text : String)
  deriving DecidableEq

def InvocationFault.message : InvocationFault → String
  | .operation text => Quoted.quote text ++ " is not a valid Operation"
  | .configuration text => Quoted.quote text ++ " is not a valid Configuration"
  | .verbosity text => Quoted.quote text ++ " is not a valid Verbosity"

namespace Invocation

/-- The invocation that texts name; they are checked in order. -/
def ofTexts (selector operation configuration verbosity : String) :
    Except InvocationFault Invocation :=
  match Operation.ofText? operation with
  | none => .error (.operation operation)
  | some o =>
    match Configuration.ofText? configuration with
    | none => .error (.configuration configuration)
    | some c =>
      match Verbosity.ofText? verbosity with
      | none => .error (.verbosity verbosity)
      | some v => .ok ⟨selector, o, c, v⟩

/-- Tests cover the whole workspace. -/
def scopeFlags : Operation → List String
  | .build => []
  | .test => ["--all"]

def modeFlags : Configuration → List String
  | .debug => []
  | .release => ["--release"]

/-- A quiet run is asked of the test harness, behind the toolchain's own arguments. -/
def outputFlags : Verbosity → List String
  | .default => []
  | .verbose => ["--verbose"]
  | .quiet => ["--", "--quiet"]

def command (inv : Invocation) (program : String) : List String :=
  [program, "+" ++ inv.selector, inv.operation.text] ++ scopeFlags inv.operation ++
    modeFlags inv.configuration ++ outputFlags inv.verbosity

def label (inv : Invocation) : String :=
  inv.selector ++ ":" ++ inv.operation.text ++ ":" ++ inv.configuration.text

end Invocation

end DualToolchain
