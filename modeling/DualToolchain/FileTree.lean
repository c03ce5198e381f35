import DualToolchain.Path
import DualToolchain.Text.Quoted

/-! A tree of files and directories, and the operations that a run needs: looking a path up,
making a directory with its parents, and writing a file. Paths resolve as a file system resolves
them: a double dot leads to the parent of a directory that exists. The limits of a file system are
left out: names of any length are taken, nothing is forbidden to the program, space does not run
out, and a file is written as a whole or not at all. -/

namespace DualToolchain

/-- What a location holds. -/
inductive Entry where
  | file (bytes : List UInt8)
  | directory
  deriving DecidableEq

/-- A place in a tree: the names from the root down. -/
abbrev Location := List String

/-- The entries of a tree, and the directory where relative paths start. -/
structure FileTree where
  entries : List (Location × Entry)
  here : Location
  deriving DecidableEq

inductive Refusal where
  | notFound | alreadyExists | notDirectory | isDirectory
  deriving DecidableEq

namespace Refusal

def number : Refusal → Nat
  | .notFound => 2
  | .alreadyExists => 17
  | .notDirectory => 20
  | .isDirectory => 21

def text : Refusal → String
  | .notFound => "No such file or directory"
  | .alreadyExists => "File exists"
  | .notDirectory => "Not a directory"
  | .isDirectory => "Is a directory"

end Refusal

/-- Why an operation on a path fails. -/
inductive FileFault where
  | refused (reason : Refusal) (path : Path)
  | nulInPath
  | outside (path base : Path)
  deriving DecidableEq

def FileFault.message : FileFault → String
  | .refused reason path =>
    s!"[Errno {reason.number}] {reason.text}: {Quoted.quote path.toString}"
  | .nulInPath => "embedded null byte"
  | .outside path base =>
    s!"{Quoted.quote path.toString} is not in the subpath of {Quoted.quote base.toString}" ++
      " OR one path is relative and the other is absolute."

namespace FileTree

def empty : FileTree := ⟨[], []⟩

/-- What is at a location. The root is a directory. -/
def entryAt (t : FileTree) (l : Location) : Option Entry :=
  if l = [] then some .directory else t.entries.lookup l

/-- Replaces the first entry of a location, or adds one at the end. -/
def setEntry (l : Location) (e : Entry) : List (Location × Entry) → List (Location × Entry)
  | [] => [(l, e)]
  | (l', e') :: rest => if l' = l then (l, e) :: rest else (l', e') :: setEntry l e rest

def put (t : FileTree) (l : Location) (e : Entry) : FileTree :=
  { t with entries := setEntry l e t.entries }

/-! ### Resolving paths -/

def start (t : FileTree) (p : Path) : Location :=
  if p.root = .relative then t.here else []

/-- One component further: up for a double dot, else to the name. -/
def towards (l : Location) (part : String) : Location :=
  if part = ".." then l.dropLast else l ++ [part]

def descend (t : FileTree) (l : Location) : List String → Except Refusal Location
  | [] => .ok l
  | part :: rest =>
    match t.entryAt (towards l part) with
    | none => .error .notFound
    | some (.file _) => .error .notDirectory
    | some .directory => descend t (towards l part) rest

/-- The location that a path names. All of its components but the last are directories. -/
def locate (t : FileTree) (p : Path) : Except Refusal Location :=
  match p.parts.getLast? with
  | none => .ok (t.start p)
  | some last => (t.descend (t.start p) p.parts.dropLast).map (towards · last)

def lookup (t : FileTree) (p : Path) : Option Entry :=
  if p.hasNul then none
  else
    match t.locate p with
    | .ok l => t.entryAt l
    | .error _ => none

def isDirectory (t : FileTree) (p : Path) : Bool :=
  t.lookup p == some .directory

def read? (t : FileTree) (p : Path) : Option (List UInt8) :=
  match t.lookup p with
  | some (.file bytes) => some bytes
  | _ => none

/-! ### Changing the tree -/

def makeDirectory (t : FileTree) (p : Path) : Except FileFault FileTree :=
  if p.hasNul then .error .nulInPath
  else
    match t.locate p with
    | .error reason => .error (.refused reason p)
    | .ok l =>
      if (t.entryAt l).isSome then .error (.refused .alreadyExists p) else .ok (t.put l .directory)

/-- Makes one directory unless the path names one already. -/
def ensureDirectory (t : FileTree) (p : Path) : Except FileFault FileTree :=
  match t.makeDirectory p with
  | .ok t' => .ok t'
  | .error fault => if t.isDirectory p then .ok t else .error fault

/-- Makes a directory and, where nothing is there, up to `n` of its parents. The tree keeps the
parents also when the last step fails. -/
def makeParents : Nat → FileTree → Path → FileTree × Option FileFault
  | 0, t, p =>
    match t.ensureDirectory p with
    | .ok t' => (t', none)
    | .error fault => (t, some fault)
  | n + 1, t, p =>
    match t.ensureDirectory p with
    | .ok t' => (t', none)
    | .error (.refused .notFound _) =>
      match makeParents n t p.parent with
      | (t', some fault) => (t', some fault)
      | (t', none) =>
        match t'.ensureDirectory p with
        | .ok t'' => (t'', none)
        | .error fault => (t', some fault)
    | .error fault => (t, some fault)

def makeDirectories (t : FileTree) (p : Path) : FileTree × Option FileFault :=
  makeParents p.parts.length t p

/-- Writes a file, in place of one that is there. -/
def writeFile (t : FileTree) (p : Path) (bytes : List UInt8) : Except FileFault FileTree :=
  if p.hasNul then .error .nulInPath
  else
    match t.locate p with
    | .error reason => .error (.refused reason p)
    | .ok l =>
      match t.entryAt l with
      | some .directory => .error (.refused .isDirectory p)
      | _ => .ok (t.put l (.file bytes))

end FileTree

end DualToolchain
