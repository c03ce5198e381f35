import DualToolchain.Text.Blank
import DualToolchain.Text.Decimal

/-! Integers written by hand: with spaces around them, a sign, leading zeros, underscores and a
fraction of zeros. What may be left out is left out first; the rest has to be a plain numeral. -/

namespace DualToolchain.Numeral

/-- Why a text gives no integer. -/
inductive Fault where
  | malformed | tooLong
  deriving DecidableEq

/-- A numeral is no longer than this, its sign included. -/
def maxLength : Nat := 4300

/-! ### Plain numerals -/

/-- The digits of a plain numeral: zero alone, or digits that do not begin with zero. -/
def isPlain : List Char → Bool
  | [] => false
  | ['0'] => true
  | c :: cs => c != '0' && (c :: cs).all Char.isDigit

def plain? (cs : List Char) : Option Int :=
  if maxLength < cs.length then none
  else
    match cs with
    | '-' :: ds => if isPlain ds then some (-(Decimal.value ds : Int)) else none
    | ds => if isPlain ds then some (Decimal.value ds : Int) else none

/-- The length of the numeral that a text begins with: digits that do not begin with zero, perhaps
behind a minus sign. -/
def leadingLength (cs : List Char) : Nat :=
  let (sign, ds) := match cs with
    | '-' :: ds => (1, ds)
    | ds => (0, ds)
  if ds.head? = some '0' then 0 else sign + (ds.takeWhile Char.isDigit).length

/-! ### What is left out -/

/-- Drops zeros and underscores after a first zero; `last` is the one before. Another digit or a
minus sign ends them and stays, and before a point or the end the last of them stays. -/
def dropZerosAfter (last : Char) : List Char → Option (List Char)
  | [] => some [last]
  | c :: cs =>
    if c = '0' ∨ c = '_' then dropZerosAfter c cs
    else if c.isDigit ∨ c = '-' then some (c :: cs)
    else if c = '.' then some (last :: c :: cs)
    else none

/-- Drops leading zeros. The text has to begin with a digit. -/
def dropZeros : List Char → Option (List Char)
  | '0' :: cs => dropZerosAfter '0' cs
  | c :: cs => if c.isDigit then some (c :: cs) else none
  | [] => none

/-- Drops a fraction that has a digit and only zeros. -/
def dropFraction (cs : List Char) : List Char :=
  let whole := cs.takeWhile (· != '.')
  let fraction := cs.drop (whole.length + 1)
  if !fraction.isEmpty && fraction.all (· == '0') then whole else cs

/-- Whether an underscore stands next to another one. -/
def hasDoubleUnderscore : List Char → Bool
  | '_' :: '_' :: _ => true
  | _ :: cs => hasDoubleUnderscore cs
  | [] => false

/-- Drops underscores, if each of them stands alone between two other characters. -/
def dropUnderscores (cs : List Char) : List Char :=
  if cs.head? = some '_' ∨ cs.getLast? = some '_' ∨ hasDoubleUnderscore cs then cs
  else cs.filter (· != '_')

def tidyMagnitude (cs : List Char) : Option (List Char) :=
  (dropZeros cs).map fun cs => dropUnderscores (dropFraction cs)

/-- A text without what may be left out. A minus sign stays. -/
def tidy (cs : List Char) : Option (List Char) :=
  match trim isSpacing cs with
  | '-' :: rest => (tidyMagnitude rest).map ('-' :: ·)
  | '+' :: rest => tidyMagnitude rest
  | rest => tidyMagnitude rest

/-- The integer that a text writes. A text that begins with too long a numeral is told from the
other texts that write none. -/
def read (s : String) : Except Fault Int :=
  if maxLength < leadingLength s.toList then .error .tooLong
  else
    match (tidy s.toList).bind plain? with
    | some n => .ok n
    | none => .error .malformed

end DualToolchain.Numeral
