import DualToolchain.Binary64
import DualToolchain.Json.Basic
import DualToolchain.Numeral

/-! Reading the fields of an object. Values are taken in any form that has one clear meaning, such
as a numeral in a text; every field that cannot be read is reported, in order. -/

namespace DualToolchain

/-- One step from a value into a part of it. -/
inductive FieldStep where
  | key (name : String)
  | item (index : Nat)
  deriving DecidableEq

inductive FieldProblem where
  | missing
  | notText
  | notList
  | notInt
  | notIntText
  | notWhole
  | notFinite
  | tooLarge
  | notBool
  | notBoolValue
  | notRecord
  | notLogLevel
  deriving DecidableEq

/-- A problem and the place of the value. -/
structure FieldError where
  path : List FieldStep
  problem : FieldProblem
  deriving DecidableEq

namespace FieldProblem

def kind : FieldProblem → String
  | .missing => "missing"
  | .notText => "string_type"
  | .notList => "list_type"
  | .notInt => "int_type"
  | .notIntText => "int_parsing"
  | .notWhole => "int_from_float"
  | .notFinite => "finite_number"
  | .tooLarge => "int_parsing_size"
  | .notBool => "bool_type"
  | .notBoolValue => "bool_parsing"
  | .notRecord => "model_type"
  | .notLogLevel => "literal_error"

def message : FieldProblem → String
  | .missing => "Field required"
  | .notText => "Input should be a valid string"
  | .notList => "Input should be a valid list"
  | .notInt => "Input should be a valid integer"
  | .notIntText => "Input should be a valid integer, unable to parse string as an integer"
  | .notWhole => "Input should be a valid integer, got a number with a fractional part"
  | .notFinite => "Input should be a finite number"
  | .tooLarge => "Unable to parse input string as an integer, exceeded maximum size"
  | .notBool => "Input should be a valid boolean"
  | .notBoolValue => "Input should be a valid boolean, unable to interpret input"
  | .notRecord => "Input should be a valid dictionary or instance of InvocationRecord"
  | .notLogLevel => "Input should be 'CRITICAL', 'ERROR', 'WARNING', 'INFO' or 'DEBUG'"

end FieldProblem

/-- A value, or everything that is wrong with its fields. -/
inductive Checked (α : Type) where
  | valid (value : α)
  | invalid (errors : List FieldError)

namespace Checked

def errors {α : Type} : Checked α → List FieldError
  | .valid _ => []
  | .invalid es => es

def map {α β : Type} (f : α → β) : Checked α → Checked β
  | .valid a => .valid (f a)
  | .invalid es => .invalid es

/-- Applies a checked function; the problems of both sides are kept in order. -/
def app {α β : Type} (f : Checked (α → β)) (a : Checked α) : Checked β :=
  match f, a with
  | .valid f, .valid a => .valid (f a)
  | f, a => .invalid (f.errors ++ a.errors)

instance : Functor Checked := ⟨map, fun a => map fun _ => a⟩

instance : Seq Checked := ⟨fun f a => f.app (a ())⟩

/-- The same value, its problems one step further away. -/
def below {α : Type} (step : FieldStep) : Checked α → Checked α
  | .valid a => .valid a
  | .invalid es => .invalid (es.map fun e => ⟨step :: e.path, e.problem⟩)

def wrong {α : Type} (problem : FieldProblem) : Checked α :=
  .invalid [⟨[], problem⟩]

end Checked

/-! ### Kinds of values -/

namespace Checked

def text : Json → Checked String
  | .str s => .valid s
  | _ => wrong .notText

/-- The integers that sixty-four bits hold with their sign. -/
def fitsWord (n : Int) : Bool :=
  -0x8000000000000000 ≤ n && n < 0x8000000000000000

/-- The integer of a decimal. It has to be finite, without a fraction, and lie strictly between the
bounds of sixty-four bits. -/
def intOfDecimal (mantissa exponent : Int) : Checked Int :=
  let x := Binary64.ofDecimal mantissa exponent
  if (Binary64.nonFinite? x).isSome then wrong .notFinite
  else
    match Binary64.whole? x with
    | none => wrong .notWhole
    | some n => if fitsWord n && fitsWord (-n) then .valid n else wrong .tooLarge

def intOfText (s : String) : Checked Int :=
  match Numeral.read s with
  | .ok n => .valid n
  | .error .malformed => wrong .notIntText
  | .error .tooLong => wrong .tooLarge

/-- An integer: also a truth value, a number without a fraction and a text that writes one. -/
def int : Json → Checked Int
  | .int n => .valid n
  | .bool b => .valid (if b then 1 else 0)
  | .decimal m e => intOfDecimal m e
  | .nonFinite _ => wrong .notFinite
  | .str s => intOfText s
  | _ => wrong .notInt

/-- The truth value of a word, in any case. -/
def boolOfWord (s : String) : Checked Bool :=
  let word := String.ofList (s.toList.map Char.toLower)
  if ["1", "true", "t", "yes", "y", "on"].contains word then .valid true
  else if ["0", "false", "f", "no", "n", "off"].contains word then .valid false
  else wrong .notBoolValue

def boolOfInt (n : Int) : Checked Bool :=
  if n = 0 then .valid false else if n = 1 then .valid true else wrong .notBoolValue

/-- A truth value: also zero, one and a word. A number that no word of sixty-four bits holds is of
another kind. -/
def bool : Json → Checked Bool
  | .bool b => .valid b
  | .int n => if fitsWord n then boolOfInt n else wrong .notBool
  | .decimal m e =>
    match intOfDecimal m e with
    | .valid n => boolOfInt n
    | .invalid _ => wrong .notBool
  | .str s => boolOfWord s
  | _ => wrong .notBool

def orNull {α : Type} (kind : Json → Checked α) : Json → Checked (Option α)
  | .null => .valid none
  | v => (kind v).map some

/-- The items of a list from a position on. -/
def items {α : Type} (kind : Json → Checked α) : Nat → List Json → Checked (List α)
  | _, [] => .valid []
  | i, v :: vs => (List.cons <$> (kind v).below (.item i)) <*> items kind (i + 1) vs

def list {α : Type} (kind : Json → Checked α) : Json → Checked (List α)
  | .arr vs => items kind 0 vs
  | _ => wrong .notList

def required {α : Type} (kind : Json → Checked α) (name : String) (v : Json) : Checked α :=
  match v.get? name with
  | some f => (kind f).below (.key name)
  | none => (wrong .missing).below (.key name)

def optional {α : Type} (kind : Json → Checked α) (name : String) (default : α) (v : Json) :
    Checked α :=
  match v.get? name with
  | some f => (kind f).below (.key name)
  | none => .valid default

end Checked

end DualToolchain
