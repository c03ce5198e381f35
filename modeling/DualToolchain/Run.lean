import DualToolchain.Launcher
import DualToolchain.Plan
import DualToolchain.Profile
import DualToolchain.RunDirectory
import DualToolchain.Text.ShellWord
import DualToolchain.Timestamp
import DualToolchain.Verdict

/-! Runs: a request becomes a plan, the plan's commands are launched one at a time, and the first
failure ends the run. All of it is told in a receipt. -/

namespace DualToolchain

/-- What is asked of a run. Without names the profile's default target is meant. -/
structure Request where
  names : List String
  profile : Profile := .stock
  outputDir : Option Path := none
  dryRun : Bool := false
  projectDir : Option Path := none

namespace Request

/-- The names that are run. -/
def requested (q : Request) : List String :=
  if q.names = [] then [q.profile.defaultTarget] else q.names

end Request

/-- The readings of a clock, the first one at 0, in microseconds since the start of 1970. -/
abbrev Clock := Nat → Int

/-- The readings of a list; the last one repeats, and without any the clock stands at zero. -/
def Clock.ofList (readings : List Int) : Clock := fun i =>
  readings[i]?.getD (readings.getLast?.getD 0)

/-- How far a run has come. -/
structure RunState where
  files : FileTree
  trace : Trace := []
  records : List InvocationRecord := []

/-- Why a run stops before its plan ends. -/
inductive Stop where
  | failed (reasons : List Reason) (exitCode : Int)
  | fault (fault : Fault)
  deriving DecidableEq

namespace Run

def log (level : LogLevel) (message : String) : Event :=
  .log ⟨level, .runner, message⟩

/-! ### One command -/

/-- The record of a command before it is launched. -/
def planned (program : String) (index : Nat) (s : Step) : InvocationRecord where
  index := index
  target := s.leaf.name
  selector := s.invocation.selector
  operation := s.invocation.operation.text
  configuration := s.invocation.configuration.text
  verbosity := s.invocation.verbosity.text
  command := s.invocation.command program
  status := Status.skipped.text

/-- The record of a command with what came of it. -/
def settled (r : InvocationRecord) (c : Completion) : InvocationRecord :=
  { r with
    exitCode := some c.exitCode
    status := c.judge.status.text
    reasons := c.judge.reasons.map Reason.text
    durationMs := c.durationMs }

/-- The file names of the streams of a call, without their endings. -/
def stem (index : Nat) (s : Step) : String :=
  (if index < 10 then "0" else "") ++ toString index ++ "." ++ s.leaf.name ++ "." ++
    s.invocation.selector

def commandMessage (program : String) (s : Step) : String :=
  "[" ++ s.leaf.name ++ "] " ++ ShellWord.join (s.invocation.command program)

def reasonsText (reasons : List Reason) : String :=
  ", ".intercalate (reasons.map Reason.text)

def failureMessage (s : Step) (c : Completion) : String :=
  "[" ++ s.leaf.name ++ "] " ++ s.invocation.label ++ " failed with exit code " ++
    toString c.exitCode ++ " (" ++ reasonsText c.judge.reasons ++ ")"

/-- Writes the streams of a completed command, if there is a directory for them and one of them
has content. -/
def saveStreams (q : Request) (files : FileTree) (index : Nat) (s : Step) (c : Completion) :
    RunDirectory.Written RunDirectory.StreamPaths :=
  match q.outputDir with
  | none => ⟨files, .ok ⟨none, none⟩⟩
  | some dir =>
    if c.stdout = "" ∧ c.stderr = "" then ⟨files, .ok ⟨none, none⟩⟩
    else RunDirectory.writeLogs files dir (stem index s) c.stdout c.stderr

/-- Judges a completion, keeps its streams and completes the record. -/
def conclude (q : Request) (st : RunState) (s : Step) (c : Completion) :
    RunState × Option Stop :=
  let index := st.records.length
  let saved := saveStreams q st.files index s c
  let record := settled (planned q.profile.program index s) c
  match saved.result with
  | .error fault => ({ st with files := saved.files }, some (.fault (.file fault)))
  | .ok paths =>
    let record :=
      { record with
        stdoutPath := paths.stdout.map Path.toString
        stderrPath := paths.stderr.map Path.toString }
    let st := { st with files := saved.files, records := st.records ++ [record] }
    if c.judge.status = .success then (st, none)
    else
      ({ st with trace := st.trace ++ [log .error (failureMessage s c)] },
        some (.failed c.judge.reasons c.runExitCode))

/-- Announces a command and, unless this is a dry run, launches it. -/
def step (q : Request) (launcher : Launcher) (st : RunState) (s : Step) :
    RunState × Option Stop :=
  let program := q.profile.program
  let index := st.records.length
  let st := { st with trace := st.trace ++ [log .info (commandMessage program s)] }
  if q.dryRun then ({ st with records := st.records ++ [planned program index s] }, none)
  else
    let launched := launcher index (s.invocation.command program)
    let st := { st with trace := st.trace ++ launched.events }
    match launched.answer with
    | .error fault => (st, some (.fault fault))
    | .ok c => conclude q st s c

/-- Takes the steps in order, through the first that stops the run. -/
def steps (q : Request) (launcher : Launcher) (st : RunState) :
    List Step → RunState × Option Stop
  | [] => (st, none)
  | s :: rest =>
    match step q launcher st s with
    | (st, none) => steps q launcher st rest
    | (st, some stop) => (st, some stop)

/-! ### The whole run -/

/-- What a run leaves: the files, what was seen from outside, and the receipt or what went wrong. -/
structure Report where
  files : FileTree
  trace : Trace
  outcome : Except Fault Receipt

def receipt (q : Request) (clock : Clock) (records : List InvocationRecord) (status : Status)
    (reasons : List Reason) (exitCode : Int) : Receipt where
  profileId := q.profile.id
  requested := q.requested
  program := q.profile.program
  selectors := q.profile.selectors
  projectDir := q.projectDir.map Path.toString
  dryRun := q.dryRun
  status := status.text
  reasons := reasons.map Reason.text
  exitCode := exitCode
  invocations := records
  startedAt := Timestamp.text (clock 0)
  finishedAt := some (Timestamp.text (clock 1))

def successMessage (q : Request) (count : Nat) : String :=
  " ".intercalate q.requested ++ ": " ++ toString count ++ " invocation(s) " ++
    if q.dryRun then "planned" else "succeeded"

/-- Ends a run: a success is logged, and the receipt is written if there is a directory for it. -/
def finish (q : Request) (clock : Clock) (st : RunState) (status : Status)
    (reasons : List Reason) (exitCode : Int) : Report :=
  let r := receipt q clock st.records status reasons exitCode
  let trace :=
    if status = .success then st.trace ++ [log .info (successMessage q st.records.length)]
    else st.trace
  match q.outputDir with
  | none => ⟨st.files, trace, .ok r⟩
  | some dir =>
    let written := RunDirectory.writeReceipt st.files dir r
    match written.result with
    | .error fault => ⟨written.files, trace, .error (.file fault)⟩
    | .ok path =>
      ⟨written.files, trace ++ [log .info ("Receipt saved: " ++ path.toString)], .ok r⟩

def planMessage (q : Request) (plan : List Phase) : String :=
  "Plan for " ++ " ".intercalate q.requested ++ ": " ++
    ", ".intercalate (plan.map (·.leaf.name))

end Run

/-- Runs a request. Its names are checked before anything is launched; an unknown one ends the run
with exit code 2. -/
def Request.run (q : Request) (launcher : Launcher) (clock : Clock) (files : FileTree) :
    Run.Report :=
  match Plan.resolve q.requested q.profile.selectors with
  | .error e =>
    Run.finish q clock ⟨files, [Run.log .error e.message], []⟩ .failed [.unknownTarget] 2
  | .ok plan =>
    let st : RunState := ⟨files, [Run.log .debug (Run.planMessage q plan)], []⟩
    match Run.steps q launcher st (Plan.steps plan) with
    | (st, none) => Run.finish q clock st .success [] 0
    | (st, some (.failed reasons code)) => Run.finish q clock st .failed reasons code
    | (st, some (.fault fault)) => ⟨st.files, st.trace, .error fault⟩

end DualToolchain
