import DualToolchain.Text.Blank

/-! The statements of an environment file: `KEY=value` lines with quotes, escapes, comments and an
optional `export`. A statement that does not fit is dropped to the end of its line. -/

namespace DualToolchain.EnvFile

/-- A key and its value; without an equals sign a key has no value. -/
structure Assignment where
  key : String
  value : Option String
  deriving DecidableEq

inductive Statement where
  | assignment (a : Assignment)
  | nothing
  /-- The statement does not fit; it starts on the line. -/
  | malformed (line : Nat)
  deriving DecidableEq

/-- What a reader gives: a value and the rest, or the rest where it failed. -/
inductive Read (α : Type) where
  | ok (value : α) (rest : List Char)
  | fail (rest : List Char)

/-! ### Quoted values -/

/-- The text up to the first closing quote, and the rest. A quote behind a backslash does not
close. -/
def closing? (q : Char) : List Char → Option (List Char × List Char)
  | [] => none
  | '\\' :: c :: rest =>
    if c = q then (closing? q rest).map fun (cs, rest) => ('\\' :: c :: cs, rest)
    else (closing? q (c :: rest)).map fun (cs, rest) => ('\\' :: cs, rest)
  | c :: rest =>
    if c = q then some ([], rest) else (closing? q rest).map fun (cs, rest) => (c :: cs, rest)

/-- The text up to the last quote behind a backslash, the backslash included, and the rest. -/
def lastEscaped? (q : Char) : List Char → Option (List Char × List Char)
  | [] => none
  | c :: rest =>
    match lastEscaped? q rest with
    | some (cs, rest) => some (c :: cs, rest)
    | none =>
      match rest with
      | d :: rest => if c = '\\' ∧ d = q then some ([c], rest) else none
      | [] => none

/-- The text between quotes, after the opening one. Where no quote closes it, the last quote behind
a backslash does. -/
def quotedText? (q : Char) (cs : List Char) : Option (List Char × List Char) :=
  match closing? q cs with
  | some r => some r
  | none => lastEscaped? q cs

/-- The character that an escape between single quotes stands for. -/
def singleEscape? : Char → Option Char
  | '\\' => some '\\'
  | '\'' => some '\''
  | _ => none

/-- The character that an escape between double quotes stands for. -/
def doubleEscape? : Char → Option Char
  | '\\' => some '\\'
  | '\'' => some '\''
  | '"' => some '"'
  | 'a' => some '\x07'
  | 'b' => some '\x08'
  | 'f' => some '\x0c'
  | 'n' => some '\n'
  | 'r' => some '\r'
  | 't' => some '\t'
  | 'v' => some '\x0b'
  | _ => none

/-- Escapes replaced; a backslash before any other character stays. -/
def unescape (escape? : Char → Option Char) : List Char → List Char
  | [] => []
  | '\\' :: c :: rest =>
    match escape? c with
    | some e => e :: unescape escape? rest
    | none => '\\' :: unescape escape? (c :: rest)
  | c :: rest => c :: unescape escape? rest

/-! ### Parts of a statement -/

/-- The line without a comment that white space precedes. -/
def withoutComment : List Char → List Char
  | [] => []
  | c :: rest =>
    if isBlank c && ((rest.dropWhile isBlank).head? == some '#') then []
    else c :: withoutComment rest

/-- Drops an `export` that blanks follow, with the blanks. -/
def skipExport (cs : List Char) : List Char :=
  match cs with
  | 'e' :: 'x' :: 'p' :: 'o' :: 'r' :: 't' :: c :: rest =>
    if isInlineBlank c then rest.dropWhile isInlineBlank else cs
  | _ => cs

/-- Whether a character may stand in a bare key. -/
def isKeyChar (c : Char) : Bool :=
  c != '=' && c != '#' && !isBlank c

/-- A key between single quotes or a bare one. A comment has none. -/
def readKey (cs : List Char) : Read (Option (List Char)) :=
  match cs with
  | '#' :: _ => .ok none cs
  | '\'' :: inner =>
    let key := inner.takeWhile (· != '\'')
    match inner.drop key.length with
    | _ :: rest => if key.isEmpty then .fail cs else .ok (some key) rest
    | [] => .fail cs
  | _ =>
    let key := cs.takeWhile isKeyChar
    if key.isEmpty then .fail cs else .ok (some key) (cs.drop key.length)

def readValue (cs : List Char) : Read (List Char) :=
  match cs with
  | '\'' :: inner =>
    match quotedText? '\'' inner with
    | some (text, rest) => .ok (unescape singleEscape? text) rest
    | none => .fail cs
  | '"' :: inner =>
    match quotedText? '"' inner with
    | some (text, rest) => .ok (unescape doubleEscape? text) rest
    | none => .fail cs
  | _ =>
    let line := cs.takeWhile (· != '\n')
    .ok (trimEnd isBlank (withoutComment line)) (cs.drop line.length)

/-- The value of a key: none without an equals sign. -/
def readAssigned (cs : List Char) : Read (Option (List Char)) :=
  match cs.dropWhile isInlineBlank with
  | '=' :: rest =>
    match readValue (rest.dropWhile isInlineBlank) with
    | .ok value rest => .ok (some value) rest
    | .fail rest => .fail rest
  | rest => .ok none rest

/-- The end of a statement: blanks, perhaps a comment, and the end of the line. -/
def readEnd (cs : List Char) : Read Unit :=
  let rest :=
    match cs.dropWhile isInlineBlank with
    | '#' :: comment => comment.dropWhile (· != '\n')
    | _ => cs
  match rest.dropWhile isInlineBlank with
  | [] => .ok () []
  | '\n' :: after => .ok () after
  | _ => .fail rest

def readStatement (cs : List Char) : Read (Option Assignment) :=
  match readKey (skipExport cs) with
  | .fail rest => .fail rest
  | .ok key rest =>
    match readAssigned rest with
    | .fail rest => .fail rest
    | .ok value rest =>
      match readEnd rest with
      | .fail rest => .fail rest
      | .ok _ rest =>
        .ok (key.map fun k => ⟨String.ofList k, value.map String.ofList⟩) rest

/-! ### All statements -/

/-- The statements from a line on; the first number bounds how many are read. -/
def statementsFrom : Nat → Nat → List Char → List Statement
  | 0, _, _ => []
  | _ + 1, _, [] => []
  | n + 1, line, c :: cs =>
    let body := (c :: cs).dropWhile isBlank
    if body.isEmpty then []
    else
      let next := fun rest : List Char =>
        statementsFrom n (line + ((c :: cs).take ((c :: cs).length - rest.length)).count '\n') rest
      match readStatement body with
      | .ok (some a) rest => .assignment a :: next rest
      | .ok none rest => .nothing :: next rest
      | .fail rest => .malformed line :: next ((rest.dropWhile (· != '\n')).drop 1)

/-- Line ends of one character. -/
def unixLines : List Char → List Char
  | [] => []
  | '\r' :: '\n' :: rest => '\n' :: unixLines rest
  | '\r' :: rest => '\n' :: unixLines rest
  | c :: rest => c :: unixLines rest

/-- The statements of a file. Each of them takes a character at least, so the length bounds their
number. -/
def statements (text : String) : List Statement :=
  let cs := unixLines text.toList
  statementsFrom cs.length 1 cs

end DualToolchain.EnvFile
