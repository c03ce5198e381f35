import DualToolchain.Binary64
import DualToolchain.Completion
import DualToolchain.FileTree
import DualToolchain.Trace

/-! Launching commands. A launcher answers the calls of a run by their position; one that starts
processes turns the outcome of a process into a completion and passes its output on. -/

namespace DualToolchain

/-- Why an operation gives no result. -/
inductive Fault where
  | file (fault : FileFault)
  /-- The launch was refused as meaningless, before any process could start. -/
  | badLaunch (message : String)
  /-- A command without a program. -/
  | noProgram
  /-- The time that a launch took is not finite. -/
  | duration (number : Binary64.NonFinite)
  deriving DecidableEq

def Fault.message : Fault → String
  | .file fault => fault.message
  | .badLaunch message => message
  | .noProgram => "list index out of range"
  | .duration (.infinity _) => "cannot convert float infinity to integer"
  | .duration .undefined => "cannot convert float NaN to integer"

/-- What a launcher gives for one command. -/
structure Launched where
  answer : Except Fault Completion
  events : Trace

/-- Answers the calls of a run: the position of the call, from 0, and the command. -/
abbrev Launcher := Nat → List String → Launched

/-- Gives prepared answers, and success after the last of them. -/
def Launcher.prepared (answers : List Completion) : Launcher := fun i command =>
  ⟨.ok (answers[i]?.getD ⟨0, "", "", 0, none⟩), [.launch ⟨command, none, none, false⟩]⟩

/-! ### Processes -/

/-- Why a process could not be started. -/
inductive LaunchFailure where
  /-- The system's number and text, and the file it concerns. -/
  | system (number : Int) (text : String) (file : Option String)
  | notFound (message : String)
  | other (message : String)
  deriving DecidableEq

namespace LaunchFailure

/-- What went wrong. A system failure without a text is shown by its number. -/
def cause : LaunchFailure → String
  | .system number text file =>
    if text ≠ "" then text
    else
      "[Errno " ++ toString number ++ "] " ++
        match file with
        | some f => ": " ++ Quoted.quote f
        | none => ""
  | .notFound message => message
  | .other message => message

/-- Shells give 127 for a program that is not found and 126 for one that cannot be started. -/
def exitCode : LaunchFailure → Int
  | .system 2 _ _ => 127
  | .notFound _ => 127
  | _ => 126

end LaunchFailure

/-- How starting a process came out. -/
inductive ProcessOutcome where
  | completed (returnCode : Int) (stdout stderr : List UInt8)
  | failed (failure : LaunchFailure)
  | rejected (message : String)
  deriving DecidableEq

/-- The outcome of a launch and the readings of a clock, in seconds, around it. -/
structure ProcessRun where
  outcome : ProcessOutcome := .completed 0 [] []
  before : Float := 0
  after : Float := 0

/-- The time between the readings in whole milliseconds, which has to be finite. -/
def ProcessRun.durationMs (r : ProcessRun) : Except Fault Int :=
  let ms := (r.after - r.before) * 1000
  match Binary64.nonFinite? ms with
  | none => .ok (Binary64.truncate ms)
  | some number => .error (.duration number)

/-- How processes are started, and whether the streams that output is passed on to take text
only. -/
structure ProcessSettings where
  directory : Option Path := none
  capture : Bool := false
  environment : Option (List (String × String)) := none
  textOnly : Bool := false

namespace ProcessSettings

def launch (s : ProcessSettings) (command : List String) : Launch :=
  ⟨command, s.directory, s.environment, s.capture⟩

/-- The bytes that are passed on: a stream that takes text only gets ill-formed parts replaced. -/
def relayed (s : ProcessSettings) (bytes : List UInt8) : List UInt8 :=
  if s.textOnly then Utf8.encode (Utf8.decode bytes) else bytes

/-- Output that the process left to be captured; nothing if its streams are passed through. -/
def captured (s : ProcessSettings) (bytes : List UInt8) : List UInt8 :=
  if s.capture then bytes else []

/-- The completion of a process that ran, its output passed on and its end logged. -/
def completion (s : ProcessSettings) (command : List String) (returnCode : Int)
    (stdout stderr : List UInt8) (durationMs : Int) : Launched :=
  let out := s.captured stdout
  let err := s.captured stderr
  let seen := [.launch (s.launch command), .out (s.relayed out), .err (s.relayed err)]
  match command with
  | [] => ⟨.error .noProgram, seen⟩
  | program :: _ =>
    let message := program ++ " exited " ++ toString returnCode ++ " after " ++
      toString durationMs ++ " ms"
    ⟨.ok ⟨returnCode, Utf8.decode out, Utf8.decode err, durationMs, none⟩,
      seen ++ [.log ⟨.debug, .launcher, message⟩]⟩

/-- The completion of a process that did not start, with its message on standard error. -/
def failure (s : ProcessSettings) (command : List String) (f : LaunchFailure)
    (durationMs : Except Fault Int) : Launched :=
  match command with
  | [] => ⟨.error .noProgram, [.launch (s.launch command)]⟩
  | program :: _ =>
    let message := program ++ ": " ++ f.cause
    let seen := [.launch (s.launch command), .err (Utf8.encode (message ++ "\n"))]
    match durationMs with
    | .error fault => ⟨.error fault, seen⟩
    | .ok ms => ⟨.ok ⟨f.exitCode, "", message ++ "\n", ms, some message⟩, seen⟩

def run (s : ProcessSettings) (command : List String) (r : ProcessRun) : Launched :=
  match r.outcome with
  | .completed returnCode stdout stderr =>
    match r.durationMs with
    | .error fault => ⟨.error fault, [.launch (s.launch command)]⟩
    | .ok ms => s.completion command returnCode stdout stderr ms
  | .failed f => s.failure command f r.durationMs
  | .rejected message => ⟨.error (.badLaunch message), [.launch (s.launch command)]⟩

end ProcessSettings

/-- Starts processes, whose outcomes are given; after the last one they succeed in silence. -/
def Launcher.processes (s : ProcessSettings) (runs : List ProcessRun) : Launcher := fun i command =>
  s.run command (runs[i]?.getD ⟨.completed 0 [] [], 0, 0⟩)

end DualToolchain
