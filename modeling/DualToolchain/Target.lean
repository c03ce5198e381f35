import DualToolchain.Invocation
import DualToolchain.Text.Quoted

/-! The targets that can be asked for. A leaf issues one invocation for each selector; a composite
stands for leaves in order. -/

namespace DualToolchain

/-- A target that issues invocations. -/
inductive Leaf where
  | build | buildRelease | test | testRelease
  deriving DecidableEq

/-- A target that stands for several leaves. -/
inductive Composite where
  | all | allRelease
  deriving DecidableEq

inductive Target where
  | composite (c : Composite)
  | leaf (l : Leaf)
  deriving DecidableEq

namespace Leaf

def name : Leaf → String
  | .build => "build"
  | .buildRelease => "build-release"
  | .test => "test"
  | .testRelease => "test-release"

def description : Leaf → String
  | .build => "compiles the code"
  | .buildRelease => "compiles the code in release mode"
  | .test => "runs unit tests"
  | .testRelease => "runs unit tests in release mode"

def operation : Leaf → Operation
  | .build | .buildRelease => .build
  | .test | .testRelease => .test

def configuration : Leaf → Configuration
  | .build | .test => .debug
  | .buildRelease | .testRelease => .release

def verbosity : Leaf → Verbosity
  | .build => .default
  | .test => .quiet
  | .buildRelease | .testRelease => .verbose

def invocation (l : Leaf) (selector : String) : Invocation :=
  ⟨selector, l.operation, l.configuration, l.verbosity⟩

/-- One invocation for each selector, in the order of the selectors. -/
def invocations (l : Leaf) (selectors : List String) : List Invocation :=
  selectors.map l.invocation

end Leaf

namespace Composite

def name : Composite → String
  | .all => "all"
  | .allRelease => "all-release"

def description : Composite → String
  | .all => "compiles and tests the code"
  | .allRelease => "compiles and tests the code in release mode"

/-- The leaves of a composite, in order: the code is built before it is tested. -/
def steps : Composite → List Leaf
  | .all => [.build, .test]
  | .allRelease => [.buildRelease, .testRelease]

end Composite

namespace Target

def name : Target → String
  | .composite c => c.name
  | .leaf l => l.name

def description : Target → String
  | .composite c => c.description
  | .leaf l => l.description

def leaves : Target → List Leaf
  | .composite c => c.steps
  | .leaf l => [l]

/-- The targets in the order in which they are listed. -/
def table : List Target :=
  [.composite .all, .composite .allRelease, .leaf .build, .leaf .buildRelease, .leaf .test,
    .leaf .testRelease]

def names : List String :=
  table.map name

/-- What a run does when no target is named. -/
def defaultName : String := "all"

def ofName? (s : String) : Option Target :=
  table.find? (·.name == s)

end Target

/-- A requested name that is not in the table. -/
structure UnknownTarget where
  name : String
  deriving DecidableEq

def UnknownTarget.message (e : UnknownTarget) : String :=
  "unknown target " ++ Quoted.quote e.name ++ " (expected one of: " ++
    ", ".intercalate Target.names ++ ")"

def Target.get (name : String) : Except UnknownTarget Target :=
  match ofName? name with
  | some t => .ok t
  | none => .error ⟨name⟩

end DualToolchain
