/-! Path texts and their components. Repeated slashes and components that are a single dot have no
meaning and are dropped; a double dot stays, because a file tree has to resolve it. -/

namespace DualToolchain

/-- Where a path starts. Two leading slashes are kept apart from one. -/
inductive PathRoot where
  | relative | slash | doubleSlash
  deriving DecidableEq

def PathRoot.text : PathRoot → String
  | .relative => ""
  | .slash => "/"
  | .doubleSlash => "//"

/-- A path: its root and its components, none of them empty, a single dot or with a slash. -/
structure Path where
  root : PathRoot
  parts : List String
  deriving DecidableEq

namespace Path

def pieces : List Char → List (List Char)
  | [] => [[]]
  | c :: cs =>
    if c = '/' then [] :: pieces cs
    else
      match pieces cs with
      | [] => [[c]]
      | p :: ps => (c :: p) :: ps

/-- The root that the leading slashes give: two are kept, more than two count as one. -/
def rootOf (cs : List Char) : PathRoot :=
  match (cs.takeWhile (· == '/')).length with
  | 0 => .relative
  | 2 => .doubleSlash
  | _ => .slash

def isComponent (piece : List Char) : Bool :=
  !piece.isEmpty && piece != ['.']

/-- The path of a text. -/
def ofString (s : String) : Path :=
  ⟨rootOf s.toList, ((pieces s.toList).filter isComponent).map String.ofList⟩

/-- The text of a path. The path without root and components is a single dot. -/
def toString (p : Path) : String :=
  if p.root = .relative ∧ p.parts = [] then "." else p.root.text ++ "/".intercalate p.parts

instance : ToString Path := ⟨toString⟩

/-- A path below another one; an absolute path stays as it is. -/
def join (p q : Path) : Path :=
  if q.root = .relative then ⟨p.root, p.parts ++ q.parts⟩ else q

def child (p : Path) (s : String) : Path :=
  p.join (ofString s)

def parent (p : Path) : Path :=
  ⟨p.root, p.parts.dropLast⟩

/-- The path as seen from one that it starts with. -/
def relativeTo? (p base : Path) : Option Path :=
  if p.root = base.root ∧ base.parts.isPrefixOf p.parts then
    some ⟨.relative, p.parts.drop base.parts.length⟩
  else none

/-- Whether a component holds the character U+0000, which no file name may. -/
def hasNul (p : Path) : Bool :=
  p.parts.any (·.toList.contains '\x00')

end Path

end DualToolchain
