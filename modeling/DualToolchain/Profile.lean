import DualToolchain.Target

/-! Profiles: the toolchain program and the two selectors that every leaf runs with. -/

namespace DualToolchain

/-- Which program to call and with which selectors. None of the three is empty. -/
structure Profile where
  program : String
  pinned : String
  stable : String
  defaultTarget : String := Target.defaultName
  program_ne : program ≠ ""
  pinned_ne : pinned ≠ ""
  stable_ne : stable ≠ ""

/-- Why there is no profile. -/
inductive ProfileFault where
  | noProgram | noSelector
  deriving DecidableEq

def ProfileFault.message : ProfileFault → String
  | .noProgram => "toolchain program must not be empty"
  | .noSelector => "both toolchain selectors must be non-empty"

namespace Profile

/-- The profile of the values. The program is checked before the selectors. -/
def make (program pinned stable defaultTarget : String) : Except ProfileFault Profile :=
  if hp : program = "" then .error .noProgram
  else if hs : pinned = "" ∨ stable = "" then .error .noSelector
  else
    .ok ⟨program, pinned, stable, defaultTarget, hp, fun h => hs (.inl h), fun h => hs (.inr h)⟩

def stock : Profile :=
  ⟨"cargo", "1.31.0", "stable", Target.defaultName, by decide, by decide, by decide⟩

/-- The pinned selector comes first. -/
def selectors (p : Profile) : List String :=
  [p.pinned, p.stable]

def id (p : Profile) : String :=
  p.program ++ "-" ++ p.pinned ++ "-" ++ p.stable

end Profile

/-- One line of the list of targets, its name filled up to `width`. -/
def listLine (width : Nat) (p : Profile) (t : Target) : String :=
  let fill := String.ofList (List.replicate (width - t.name.length) ' ')
  let mark := if t.name = p.defaultTarget then " (default)" else ""
  "    " ++ t.name ++ fill ++ "  # " ++ t.description ++ mark ++ "\n"

/-- The list of targets, the profile's default marked. -/
def listText (p : Profile) : String :=
  let width := (Target.names.map String.length).foldl max 0
  "Available targets:\n" ++ String.join (Target.table.map (listLine width p))

end DualToolchain
