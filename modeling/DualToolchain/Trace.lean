import DualToolchain.Log
import DualToolchain.Path
import DualToolchain.Text.Utf8

/-! Traces: what a run does to the outside, in order. The streams, the log and the launches are
views of one trace. -/

namespace DualToolchain

/-- A command that is handed over to be started. -/
structure Launch where
  command : List String
  directory : Option Path := none
  environment : Option (List (String × String)) := none
  capture : Bool := false
  deriving DecidableEq

/-- One thing that is seen from outside. -/
inductive Event where
  | log (record : LogRecord)
  | launch (launch : Launch)
  | out (bytes : List UInt8)
  | err (bytes : List UInt8)
  deriving DecidableEq

abbrev Trace := List Event

namespace Event

def record? : Event → Option LogRecord
  | .log r => some r
  | _ => none

def launch? : Event → Option Launch
  | .launch l => some l
  | _ => none

def outBytes : Event → List UInt8
  | .out bytes => bytes
  | _ => []

/-- The bytes on standard error. Records from a level on are written there as lines, if a level
is given. -/
def errBytes (level : Option LogLevel) (time : String) : Event → List UInt8
  | .err bytes => bytes
  | .log r =>
    match level with
    | some l => if l.rank ≤ r.level.rank then Utf8.encode (r.line time) else []
    | none => []
  | _ => []

end Event

namespace Trace

def records (t : Trace) : List LogRecord :=
  t.filterMap Event.record?

def launches (t : Trace) : List Launch :=
  t.filterMap Event.launch?

def commands (t : Trace) : List (List String) :=
  (launches t).map (·.command)

def stdout (t : Trace) : List UInt8 :=
  t.flatMap Event.outBytes

def stderr (level : Option LogLevel) (time : String) (t : Trace) : List UInt8 :=
  t.flatMap (Event.errBytes level time)

@[simp] theorem commands_nil : commands [] = [] := rfl

@[simp] theorem commands_append (t t' : Trace) :
    commands (t ++ t') = commands t ++ commands t' := by
  simp [commands, launches]

@[simp] theorem commands_log (r : LogRecord) (t : Trace) :
    commands (.log r :: t) = commands t := rfl

@[simp] theorem commands_launch (l : Launch) (t : Trace) :
    commands (.launch l :: t) = l.command :: commands t := rfl

@[simp] theorem launches_append (t t' : Trace) :
    launches (t ++ t') = launches t ++ launches t' :=
  List.filterMap_append

@[simp] theorem launches_log (r : LogRecord) (t : Trace) :
    launches (.log r :: t) = launches t := rfl

end Trace

end DualToolchain
