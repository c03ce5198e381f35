import DualToolchain.Json.Basic
import DualToolchain.Text.Decimal
import DualToolchain.Text.Hex

/-! Reading JSON. Each reader gives the value and the characters after it. -/

namespace DualToolchain.Json

def skip (cs : List Char) : List Char :=
  cs.dropWhile fun c => c == ' ' || c == '\t' || c == '\n' || c == '\r'

/-! ### Texts -/

/-- The value of four hexadecimal numerals. -/
def unit? (a b c d : Char) : Option Nat := do
  return (((← Hex.value? a) * 16 + (← Hex.value? b)) * 16 + (← Hex.value? c)) * 16 + (← Hex.value? d)

/-- The character after a backslash that stands for one character. -/
def simpleEscape? : Char → Option Char
  | '"' => some '"'
  | '\\' => some '\\'
  | '/' => some '/'
  | 'b' => some '\x08'
  | 'f' => some '\x0c'
  | 'n' => some '\n'
  | 'r' => some '\r'
  | 't' => some '\t'
  | _ => none

def consTo (c : Char) (read : Option (List Char × List Char)) : Option (List Char × List Char) :=
  read.map fun (cs, rest) => (c :: cs, rest)

/-- A text after its opening quote, through the closing one. Two escapes of surrogates make one
character; a surrogate that stands alone is refused. -/
def readText : List Char → Option (List Char × List Char)
  | [] => none
  | '"' :: rest => some ([], rest)
  | '\\' :: 'u' :: a :: b :: c :: d :: rest =>
    match unit? a b c d with
    | none => none
    | some n =>
      if n < 0xd800 ∨ 0xe000 ≤ n then consTo (Char.ofNat n) (readText rest)
      else if n < 0xdc00 then
        match rest with
        | '\\' :: 'u' :: e :: f :: g :: h :: rest =>
          match unit? e f g h with
          | some m =>
            if 0xdc00 ≤ m ∧ m < 0xe000 then
              consTo (Char.ofNat (0x10000 + (n - 0xd800) * 0x400 + (m - 0xdc00))) (readText rest)
            else none
          | none => none
        | _ => none
      else none
  | '\\' :: c :: rest =>
    match simpleEscape? c with
    | some e => consTo e (readText rest)
    | none => none
  | c :: rest => if c.toNat < 0x20 then none else consTo c (readText rest)

/-! ### Numbers -/

/-- The leading numerals, at least one, and the rest. -/
def digits? (cs : List Char) : Option (List Char × List Char) :=
  let ds := cs.takeWhile Char.isDigit
  if ds.isEmpty then none else some (ds, cs.dropWhile Char.isDigit)

def readExponent (cs : List Char) : Option (Option Int × List Char) :=
  match cs with
  | 'e' :: rest | 'E' :: rest =>
    match rest with
    | '-' :: rest => (digits? rest).map fun (ds, rest) => (some (-(Decimal.value ds : Int)), rest)
    | '+' :: rest => (digits? rest).map fun (ds, rest) => (some (Decimal.value ds : Int), rest)
    | rest => (digits? rest).map fun (ds, rest) => (some (Decimal.value ds : Int), rest)
  | _ => some (none, cs)

def readFraction (cs : List Char) : Option (List Char × List Char) :=
  match cs with
  | '.' :: rest => digits? rest
  | _ => some ([], cs)

/-- A number without its sign; `sign` is one or minus one. -/
def readMagnitude (sign : Int) (cs : List Char) : Option (Json × List Char) := do
  let (whole, rest) ← digits? cs
  if whole.length > 1 ∧ whole.head? = some '0' then none
  else
    let (fraction, rest) ← readFraction rest
    let (exponent, rest) ← readExponent rest
    if fraction.isEmpty ∧ exponent.isNone then return (.int (sign * Decimal.value whole), rest)
    else
      return (.decimal (sign * Decimal.value (whole ++ fraction))
        (exponent.getD 0 - fraction.length), rest)

/-- A number or one of the words for numbers that are not finite. -/
def readNumber : List Char → Option (Json × List Char)
  | 'N' :: 'a' :: 'N' :: rest => some (.nonFinite .undefined, rest)
  | 'I' :: 'n' :: 'f' :: 'i' :: 'n' :: 'i' :: 't' :: 'y' :: rest =>
    some (.nonFinite (.infinity false), rest)
  | '-' :: 'I' :: 'n' :: 'f' :: 'i' :: 'n' :: 'i' :: 't' :: 'y' :: rest =>
    some (.nonFinite (.infinity true), rest)
  | '-' :: rest => readMagnitude (-1) rest
  | cs => readMagnitude 1 cs

/-! ### Values -/

mutual

/-- A value; the number bounds the nesting and the length of what is read. -/
def readValue : Nat → List Char → Option (Json × List Char)
  | 0, _ => none
  | n + 1, cs =>
    match skip cs with
    | '"' :: rest => (readText rest).map fun (s, rest) => (.str (String.ofList s), rest)
    | '[' :: rest =>
      match skip rest with
      | ']' :: rest => some (.arr [], rest)
      | rest => (readItems n rest).map fun (vs, rest) => (.arr vs, rest)
    | '\x7b' :: rest =>
      match skip rest with
      | '\x7d' :: rest => some (.obj [], rest)
      | rest => (readMembers n rest).map fun (ms, rest) => (.obj ms, rest)
    | 'n' :: 'u' :: 'l' :: 'l' :: rest => some (.null, rest)
    | 't' :: 'r' :: 'u' :: 'e' :: rest => some (.bool true, rest)
    | 'f' :: 'a' :: 'l' :: 's' :: 'e' :: rest => some (.bool false, rest)
    | rest => readNumber rest

def readItems : Nat → List Char → Option (List Json × List Char)
  | 0, _ => none
  | n + 1, cs =>
    match readValue n cs with
    | none => none
    | some (v, rest) =>
      match skip rest with
      | ',' :: rest => (readItems n rest).map fun (vs, rest) => (v :: vs, rest)
      | ']' :: rest => some ([v], rest)
      | _ => none

def readMembers : Nat → List Char → Option (List (String × Json) × List Char)
  | 0, _ => none
  | n + 1, cs =>
    match skip cs with
    | '"' :: rest =>
      match readText rest with
      | none => none
      | some (k, rest) =>
        match skip rest with
        | ':' :: rest =>
          match readValue n rest with
          | none => none
          | some (v, rest) =>
            match skip rest with
            | ',' :: rest =>
              (readMembers n rest).map fun (ms, rest) => ((String.ofList k, v) :: ms, rest)
            | '\x7d' :: rest => some ([(String.ofList k, v)], rest)
            | _ => none
        | _ => none
    | _ => none

end

/-- The value that the text writes. Every two steps of a reader take a character, so twice the
length bounds them. -/
def parse? (s : String) : Option Json :=
  match readValue (2 * s.length + 2) s.toList with
  | some (v, rest) => if (skip rest).isEmpty then some v else none
  | none => none

end DualToolchain.Json
