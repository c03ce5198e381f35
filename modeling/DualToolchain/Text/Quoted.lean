import DualToolchain.Text.Hex
import DualToolchain.Text.Printable

/-! Quoted text as messages show it: between single quotes, or between double quotes when that
saves escaping, with everything that is not printable written as an escape. -/

namespace DualToolchain.Quoted

def escape (q c : Char) : List Char :=
  if c = q ∨ c = '\\' then ['\\', c]
  else if c = '\n' then ['\\', 'n']
  else if c = '\r' then ['\\', 'r']
  else if c = '\t' then ['\\', 't']
  else if isPrintable c then [c]
  else if c.toNat < 0x100 then '\\' :: 'x' :: Hex.padded 2 c.toNat
  else if c.toNat < 0x10000 then '\\' :: 'u' :: Hex.padded 4 c.toNat
  else '\\' :: 'U' :: Hex.padded 8 c.toNat

/-- Double quotes are used for a text that holds a single quote and no double quote. -/
def quoteFor (cs : List Char) : Char :=
  if cs.contains '\'' && !cs.contains '"' then '"' else '\''

def quoteChars (cs : List Char) : List Char :=
  let q := quoteFor cs
  q :: cs.flatMap (escape q) ++ [q]

def quote (s : String) : String :=
  String.ofList (quoteChars s.toList)

end DualToolchain.Quoted
