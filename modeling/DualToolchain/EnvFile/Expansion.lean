import DualToolchain.EnvFile.Statement

/-! The variables of an environment file. A value may name others in braces behind a dollar sign:
earlier ones of the file first, then those of the environment, then a default. -/

namespace DualToolchain

/-- The variables of a process. -/
abbrev Environment := List (String × String)

namespace EnvFile

inductive Piece where
  | literal (c : Char)
  | named (name : String) (default : String)
  deriving DecidableEq

/-- The variable after a dollar sign and a brace, through the closing brace: a name without a colon,
then perhaps a default behind a colon and a dash. -/
def readVariable (cs : List Char) : Option (Piece × List Char) :=
  let name := cs.takeWhile fun c => c != '\x7d' && c != ':'
  match cs.drop name.length with
  | '\x7d' :: rest => some (.named (String.ofList name) "", rest)
  | ':' :: '-' :: more =>
    let default := more.takeWhile (· != '\x7d')
    match more.drop default.length with
    | _ :: rest => some (.named (String.ofList name) (String.ofList default), rest)
    | [] => none
  | _ => none

/-- The pieces of a value; the number bounds how many. -/
def piecesFrom : Nat → List Char → List Piece
  | 0, _ => []
  | _ + 1, [] => []
  | n + 1, c :: cs =>
    match c, cs with
    | '$', '\x7b' :: inner =>
      match readVariable inner with
      | some (p, rest) => p :: piecesFrom n rest
      | none => .literal c :: piecesFrom n cs
    | _, _ => .literal c :: piecesFrom n cs

def pieces (value : String) : List Piece :=
  piecesFrom value.length value.toList

/-- The values of a file so far, the last first; a key without a value has none. -/
abbrev Values := List (String × Option String)

/-- What a name stands for. A key of the file that has no value hides the environment. -/
def resolve (env : Environment) (earlier : Values) (name default : String) : String :=
  match earlier.lookup name with
  | some value => value.getD ""
  | none => (env.lookup name).getD default

def Piece.text (env : Environment) (earlier : Values) : Piece → String
  | .literal c => String.ofList [c]
  | .named name default => resolve env earlier name default

def expand (env : Environment) (earlier : Values) (value : String) : String :=
  String.join ((pieces value).map (Piece.text env earlier))

/-- The values of the assignments, expanded in order, in front of earlier ones. -/
def expandAll (env : Environment) (earlier : Values) : List Assignment → Values
  | [] => earlier
  | a :: rest => expandAll env ((a.key, a.value.map (expand env earlier)) :: earlier) rest

def Statement.assignment? : Statement → Option Assignment
  | .assignment a => some a
  | _ => none

def Statement.warning? : Statement → Option String
  | .malformed line =>
    some ("python-dotenv could not parse statement starting at line " ++ toString line)
  | _ => none

def values (env : Environment) (text : String) : Values :=
  expandAll env [] ((statements text).filterMap Statement.assignment?)

def warnings (text : String) : List String :=
  (statements text).filterMap Statement.warning?

end EnvFile

end DualToolchain
