import DualToolchain.Json.Basic
import DualToolchain.Text.Decimal
import DualToolchain.Text.Hex

/-! Written JSON. Only ASCII is written: other characters become escapes of UTF-16 units. -/

namespace DualToolchain.Json

def unitEscape (n : Nat) : List Char :=
  '\\' :: 'u' :: Hex.padded 4 n

def escape (c : Char) : List Char :=
  let n := c.toNat
  if c = '"' ∨ c = '\\' then ['\\', c]
  else if c = '\n' then ['\\', 'n']
  else if c = '\r' then ['\\', 'r']
  else if c = '\t' then ['\\', 't']
  else if n = 8 then ['\\', 'b']
  else if n = 12 then ['\\', 'f']
  else if 0x20 ≤ n ∧ n < 0x7f then [c]
  else if n < 0x10000 then unitEscape n
  else unitEscape (0xd800 + (n - 0x10000) / 0x400) ++ unitEscape (0xdc00 + (n - 0x10000) % 0x400)

def quote (s : String) : List Char :=
  '"' :: s.toList.flatMap escape ++ ['"']

/-- Where lines are broken: after an opening bracket, between two items and before a closing
bracket, at a depth; and what stands between a key and its value. -/
structure Layout where
  lineBreak : Nat → List Char
  colon : List Char

def Layout.compact : Layout :=
  ⟨fun _ => [], [':']⟩

/-- One item a line, two spaces a level. -/
def Layout.indented : Layout :=
  ⟨fun depth => '\n' :: List.replicate (2 * depth) ' ', [':', ' ']⟩

mutual

def write (l : Layout) (depth : Nat) : Json → List Char
  | .null => "null".toList
  | .bool true => "true".toList
  | .bool false => "false".toList
  | .int n => Decimal.ofInt n
  | .decimal m e => Decimal.ofInt m ++ 'e' :: Decimal.ofInt e
  | .nonFinite n => n.word
  | .str s => quote s
  | .arr [] => ['[', ']']
  | .arr (v :: vs) =>
    '[' :: l.lineBreak (depth + 1) ++ write l (depth + 1) v ++ writeItems l (depth + 1) vs ++
      l.lineBreak depth ++ [']']
  | .obj [] => ['\x7b', '\x7d']
  | .obj ((k, v) :: ms) =>
    '\x7b' :: l.lineBreak (depth + 1) ++ quote k ++ l.colon ++ write l (depth + 1) v ++
      writeMembers l (depth + 1) ms ++ l.lineBreak depth ++ ['\x7d']

def writeItems (l : Layout) (depth : Nat) : List Json → List Char
  | [] => []
  | v :: vs => ',' :: l.lineBreak depth ++ write l depth v ++ writeItems l depth vs

def writeMembers (l : Layout) (depth : Nat) : List (String × Json) → List Char
  | [] => []
  | (k, v) :: ms =>
    ',' :: l.lineBreak depth ++ quote k ++ l.colon ++ write l depth v ++ writeMembers l depth ms

end

def compact (v : Json) : String :=
  String.ofList (write .compact 0 v)

def pretty (v : Json) : String :=
  String.ofList (write .indented 0 v)

end DualToolchain.Json
