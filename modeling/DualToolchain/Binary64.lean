/-! Binary floating point numbers of 64 bits as exact values: reading a decimal, the numbers that are
not finite, and the part before the point. -/

namespace DualToolchain.Binary64

/-- The number nearest to `mantissa * 10 ^ exponent`. -/
def ofDecimal (mantissa exponent : Int) : Float :=
  let magnitude := Float.ofScientific mantissa.natAbs (exponent < 0) exponent.natAbs
  if mantissa < 0 then -magnitude else magnitude

/-- What a number that is not finite is: beyond all bounds on one side, or undefined. -/
inductive NonFinite where
  | infinity (negative : Bool)
  | undefined
  deriving DecidableEq

namespace NonFinite

def word : NonFinite → List Char
  | .infinity false => "Infinity".toList
  | .infinity true => "-Infinity".toList
  | .undefined => "NaN".toList

def value : NonFinite → Float
  | .infinity false => 1 / 0
  | .infinity true => -1 / 0
  | .undefined => 0 / 0

end NonFinite

/-- A finite number is `mantissa * 2 ^ exponent`, up to its sign. -/
structure Parts where
  negative : Bool
  mantissa : Nat
  exponent : Int

/-- The sign, the mantissa and the exponent, read off the bits. -/
def parts (x : Float) : Parts :=
  let bits : Nat := x.toBits.toNat
  let fraction : Nat := bits % (1 <<< 52)
  let field : Nat := (bits >>> 52) % 2048
  ⟨bits >>> 63 == 1, if field = 0 then fraction else fraction + (1 <<< 52),
    if field = 0 then -1074 else (field : Int) - 1075⟩

/-- What a number is if it is not finite: all bits of its exponent are set then, and those of an
infinity's fraction are not. -/
def nonFinite? (x : Float) : Option NonFinite :=
  let bits : Nat := x.toBits.toNat
  if (bits >>> 52) % 2048 ≠ 2047 then none
  else if bits % (1 <<< 52) = 0 then some (.infinity (bits >>> 63 == 1))
  else some .undefined

/-- The magnitude without its fraction. -/
def Parts.floor (p : Parts) : Nat :=
  if 0 ≤ p.exponent then p.mantissa <<< p.exponent.natAbs
  else p.mantissa >>> p.exponent.natAbs

def Parts.isWhole (p : Parts) : Bool :=
  0 ≤ p.exponent || p.mantissa % (1 <<< p.exponent.natAbs) == 0

def truncate (x : Float) : Int :=
  let p := parts x
  if p.negative then -(p.floor : Int) else p.floor

/-- The integer that the number is, if it has no fraction. -/
def whole? (x : Float) : Option Int :=
  if (parts x).isWhole then some (truncate x) else none

end DualToolchain.Binary64
