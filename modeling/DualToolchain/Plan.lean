import DualToolchain.Target

/-! Plans: what a request runs, in order. -/

namespace DualToolchain

/-- The invocations of one leaf. -/
structure Phase where
  leaf : Leaf
  invocations : List Invocation
  deriving DecidableEq

/-- One invocation of a plan with the leaf that issues it. -/
structure Step where
  leaf : Leaf
  invocation : Invocation
  deriving DecidableEq

namespace Plan

/-- Later repetitions of a leaf dropped. -/
def firstOccurrences : List Leaf → List Leaf
  | [] => []
  | l :: rest => l :: (firstOccurrences rest).filter (· != l)

def phase (selectors : List String) (l : Leaf) : Phase :=
  ⟨l, l.invocations selectors⟩

/-- The targets of the names, or the first name that is not in the table. -/
def targets : List String → Except UnknownTarget (List Target)
  | [] => .ok []
  | name :: rest =>
    match Target.get name with
    | .error e => .error e
    | .ok t => (targets rest).map (t :: ·)

def ofName (name : String) (selectors : List String) : Except UnknownTarget (List Phase) :=
  (Target.get name).map (·.leaves.map (phase selectors))

/-- The phases of a request. All names are checked first; a leaf that is already in the plan is
not repeated. -/
def resolve (names selectors : List String) : Except UnknownTarget (List Phase) :=
  (targets names).map fun ts =>
    (firstOccurrences (ts.flatMap Target.leaves)).map (phase selectors)

def steps (plan : List Phase) : List Step :=
  plan.flatMap fun p => p.invocations.map (⟨p.leaf, ·⟩)

def commands (program : String) (plan : List Phase) : List (List String) :=
  (steps plan).map (·.invocation.command program)

end Plan

end DualToolchain
