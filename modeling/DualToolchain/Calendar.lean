/-! The Gregorian calendar, extended to all years from 1 on. Day 0 is the first day of year 1. -/

namespace DualToolchain

structure Date where
  year : Nat
  month : Nat
  day : Nat
  deriving DecidableEq

namespace Date

def isLeap (year : Nat) : Bool :=
  year % 4 == 0 && (year % 100 != 0 || year % 400 == 0)

def monthLengths (leap : Bool) : List Nat :=
  [31, if leap then 29 else 28, 31, 30, 31, 30, 31, 31, 30, 31, 30, 31]

/-- The month, from 1, and the day, from 1, of a day of the year, from 0, among the months that
are left. -/
def locate (month : Nat) : List Nat → Nat → Nat × Nat
  | [], n => (month, n + 1)
  | len :: rest, n => if n < len then (month, n + 1) else locate (month + 1) rest (n - len)

def daysBefore (year : Nat) : Nat :=
  let y := year - 1
  y * 365 + y / 4 - y / 100 + y / 400

/-- The year of a day and the days of that year before it. Four centuries have 146097 days; the
last day of four centuries or of four years is in the year before the next count begins. -/
def yearOf (n : Nat) : Nat × Nat :=
  let inCycle := n % 146097
  let century := min 3 (inCycle / 36524)
  let inCentury := inCycle - century * 36524
  let four := inCentury / 1461
  let inFour := inCentury % 1461
  let one := min 3 (inFour / 365)
  (n / 146097 * 400 + century * 100 + four * 4 + one + 1, inFour - one * 365)

def ofDay (n : Nat) : Date :=
  let (year, rest) := yearOf n
  let (month, day) := locate 1 (monthLengths (isLeap year)) rest
  ⟨year, month, day⟩

def toDay (d : Date) : Nat :=
  daysBefore d.year + ((monthLengths (isLeap d.year)).take (d.month - 1)).foldl (· + ·) 0 +
    (d.day - 1)

end Date

end DualToolchain
