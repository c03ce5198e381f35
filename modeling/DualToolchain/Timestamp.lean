import DualToolchain.Calendar
import DualToolchain.Text.Decimal

/-! Times as text, in UTC. A time is a number of microseconds since the start of 1970. -/

namespace DualToolchain.Timestamp

open Decimal (padded)

/-- The microseconds from the start of year 1 to the start of 1970. -/
def epoch : Int := 719162 * 86400000000

/-- The fraction of a second, left out when it is zero. -/
def fractionText (micros : Nat) : List Char :=
  if micros = 0 then [] else '.' :: padded 6 micros

/-- The text of the time that lies `n` microseconds after the start of year 1. -/
def textChars (n : Nat) : List Char :=
  let date := Date.ofDay (n / 86400000000)
  let seconds := n / 1000000 % 86400
  padded 4 date.year ++ '-' :: padded 2 date.month ++ '-' :: padded 2 date.day ++
    'T' :: padded 2 (seconds / 3600) ++ ':' :: padded 2 (seconds / 60 % 60) ++
    ':' :: padded 2 (seconds % 60) ++ fractionText (n % 1000000) ++ "+00:00".toList

def text (time : Int) : String :=
  String.ofList (textChars (time + epoch).toNat)

/-! ### Reading -/

/-- The number that `width` leading decimal digits write, and the rest. -/
def number? : Nat → Nat → List Char → Option (Nat × List Char)
  | 0, n, rest => some (n, rest)
  | width + 1, n, c :: rest =>
    if c.isDigit then number? width (n * 10 + (c.toNat - 48)) rest else none
  | _ + 1, _, [] => none

def after? (mark : Char) (width : Nat) : List Char → Option (Nat × List Char)
  | c :: rest => if c = mark then number? width 0 rest else none
  | [] => none

/-- The fraction and the rest; no point means zero. -/
def fraction? : List Char → Option (Nat × List Char)
  | '.' :: rest => number? 6 0 rest
  | rest => some (0, rest)

def read? (s : String) : Option Int := do
  let (year, cs) ← number? 4 0 s.toList
  let (month, cs) ← after? '-' 2 cs
  let (day, cs) ← after? '-' 2 cs
  let (hour, cs) ← after? 'T' 2 cs
  let (minute, cs) ← after? ':' 2 cs
  let (second, cs) ← after? ':' 2 cs
  let (micros, cs) ← fraction? cs
  if cs = "+00:00".toList then
    let seconds := Date.toDay ⟨year, month, day⟩ * 86400 + hour * 3600 + minute * 60 + second
    return (seconds * 1000000 + micros : Nat) - epoch
  else none

end DualToolchain.Timestamp
