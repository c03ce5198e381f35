import DualToolchain.Json.Printer

/-! Receipts: what was asked, what was called, and how it came out. Their JSON lists the members of
every object in alphabetical order. -/

namespace DualToolchain

/-- One call as it was planned and, unless it was skipped, made. -/
structure InvocationRecord where
  index : Int
  target : String
  selector : String
  operation : String
  configuration : String
  verbosity : String
  command : List String
  exitCode : Option Int := none
  status : String
  reasons : List String := []
  durationMs : Int := 0
  stdoutPath : Option String := none
  stderrPath : Option String := none
  deriving DecidableEq

/-- The account of a run. -/
structure Receipt where
  packageName : String := "toolchain_matrix"
  runnerVersion : String := "v1"
  schemaVersion : String := "1.0"
  profileId : String
  requested : List String
  program : String
  selectors : List String
  projectDir : Option String := none
  dryRun : Bool := false
  status : String := "RUNNING"
  reasons : List String := []
  exitCode : Int := 0
  invocations : List InvocationRecord := []
  startedAt : String
  finishedAt : Option String := none
  deriving DecidableEq

def InvocationRecord.toJson (r : InvocationRecord) : Json :=
  .obj [
    ("command", .strings r.command),
    ("configuration", .str r.configuration),
    ("duration_ms", .int r.durationMs),
    ("exit_code", .ofInt? r.exitCode),
    ("index", .int r.index),
    ("operation", .str r.operation),
    ("reasons", .strings r.reasons),
    ("selector", .str r.selector),
    ("status", .str r.status),
    ("stderr_path_rel", .ofText? r.stderrPath),
    ("stdout_path_rel", .ofText? r.stdoutPath),
    ("target", .str r.target),
    ("verbosity", .str r.verbosity)]

namespace Receipt

def isOk (r : Receipt) : Bool :=
  r.status == "SUCCESS"

def commands (r : Receipt) : List (List String) :=
  r.invocations.map (·.command)

def toJson (r : Receipt) : Json :=
  .obj [
    ("dry_run", .bool r.dryRun),
    ("exit_code", .int r.exitCode),
    ("finished_at", .ofText? r.finishedAt),
    ("invocations", .arr (r.invocations.map InvocationRecord.toJson)),
    ("package_name", .str r.packageName),
    ("profile_id", .str r.profileId),
    ("program", .str r.program),
    ("project_dir", .ofText? r.projectDir),
    ("reasons", .strings r.reasons),
    ("requested", .strings r.requested),
    ("runner_version", .str r.runnerVersion),
    ("schema_version", .str r.schemaVersion),
    ("selectors", .strings r.selectors),
    ("started_at", .str r.startedAt),
    ("status", .str r.status)]

def document (r : Receipt) : String :=
  r.toJson.pretty ++ "\n"

end Receipt

end DualToolchain
