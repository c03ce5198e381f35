/-! UTF-8. Encoding is total; decoding replaces each maximal ill-formed part by one U+FFFD. -/

namespace DualToolchain.Utf8

def replacement : Char := '\uFFFD'

/-! ### Encoding -/

def encodeChar (c : Char) : List UInt8 :=
  let n := c.toNat
  if n < 0x80 then [UInt8.ofNat n]
  else if n < 0x800 then [UInt8.ofNat (0xc0 + n / 64), UInt8.ofNat (0x80 + n % 64)]
  else if n < 0x10000 then
    [UInt8.ofNat (0xe0 + n / 4096), UInt8.ofNat (0x80 + n / 64 % 64), UInt8.ofNat (0x80 + n % 64)]
  else
    [UInt8.ofNat (0xf0 + n / 262144), UInt8.ofNat (0x80 + n / 4096 % 64),
      UInt8.ofNat (0x80 + n / 64 % 64), UInt8.ofNat (0x80 + n % 64)]

def encodeChars (cs : List Char) : List UInt8 :=
  cs.flatMap encodeChar

def encode (s : String) : List UInt8 :=
  encodeChars s.toList

/-! ### Sizes -/

def charSize (c : Char) : Nat :=
  (encodeChar c).length

/-- The longest beginning of a text that fits into `n` bytes. -/
def takeFitting : Nat → List Char → List Char
  | _, [] => []
  | n, c :: cs => if charSize c ≤ n then c :: takeFitting (n - charSize c) cs else []

/-! ### Decoding -/

/-- A character whose first bytes were read: its bits so far, the number of bytes still to come
and the bounds of the next one. -/
structure Pending where
  bits : Nat
  missing : Nat
  low : Nat
  high : Nat
  deriving DecidableEq

/-- What a byte that starts a longer character announces. The bounds leave out overlong forms,
surrogates and everything above U+10FFFF. -/
def lead (b : UInt8) : Option Pending :=
  let n := b.toNat
  if n < 0xc2 then none
  else if n < 0xe0 then some ⟨n - 0xc0, 1, 0x80, 0xbf⟩
  else if n = 0xe0 then some ⟨0, 2, 0xa0, 0xbf⟩
  else if n = 0xed then some ⟨13, 2, 0x80, 0x9f⟩
  else if n < 0xf0 then some ⟨n - 0xe0, 2, 0x80, 0xbf⟩
  else if n = 0xf0 then some ⟨0, 3, 0x90, 0xbf⟩
  else if n < 0xf4 then some ⟨n - 0xf0, 3, 0x80, 0xbf⟩
  else if n = 0xf4 then some ⟨4, 3, 0x80, 0x8f⟩
  else none

/-- A byte where a character starts; `next` reads what follows. -/
def startWith (b : UInt8) (next : Option Pending → List Char) : List Char :=
  if b.toNat < 0x80 then Char.ofNat b.toNat :: next none
  else
    match lead b with
    | some p => next (some p)
    | none => replacement :: next none

/-- Decodes after the bytes that `pending` tells of. A byte that does not continue a character
ends it as ill-formed and is read again as a start. -/
def decodeFrom : Option Pending → List UInt8 → List Char
  | none, [] => []
  | some _, [] => [replacement]
  | none, b :: rest => startWith b fun s => decodeFrom s rest
  | some p, b :: rest =>
    if p.low ≤ b.toNat ∧ b.toNat ≤ p.high then
      let bits := p.bits * 64 + (b.toNat - 0x80)
      if p.missing ≤ 1 then Char.ofNat bits :: decodeFrom none rest
      else decodeFrom (some ⟨bits, p.missing - 1, 0x80, 0xbf⟩) rest
    else replacement :: startWith b fun s => decodeFrom s rest

def decodeChars (bytes : List UInt8) : List Char :=
  decodeFrom none bytes

/-- The text of the bytes, ill-formed parts replaced. -/
def decode (bytes : List UInt8) : String :=
  String.ofList (decodeChars bytes)

/-- Whether the bytes are the encoding of some text. -/
def isWellFormed (bytes : List UInt8) : Bool :=
  encodeChars (decodeChars bytes) == bytes

def text? (bytes : List UInt8) : Option String :=
  if isWellFormed bytes then some (decode bytes) else none

end DualToolchain.Utf8
