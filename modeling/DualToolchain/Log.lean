/-! Log records. -/

namespace DualToolchain

/-- How grave a record is, the gravest last. -/
inductive LogLevel where
  | debug | info | warning | error | critical
  deriving DecidableEq

namespace LogLevel

def name : LogLevel → String
  | .debug => "DEBUG"
  | .info => "INFO"
  | .warning => "WARNING"
  | .error => "ERROR"
  | .critical => "CRITICAL"

def listed : List LogLevel :=
  [.critical, .error, .warning, .info, .debug]

def ofName? (s : String) : Option LogLevel :=
  listed.find? (·.name == s)

def rank : LogLevel → Nat
  | .debug => 10
  | .info => 20
  | .warning => 30
  | .error => 40
  | .critical => 50

end LogLevel

inductive LogSource where
  | runner | launcher
  deriving DecidableEq

def LogSource.name : LogSource → String
  | .runner => "toolchain_matrix.runner"
  | .launcher => "toolchain_matrix.core.executor"

structure LogRecord where
  level : LogLevel
  source : LogSource
  message : String
  deriving DecidableEq

/-- The line of a record: the time, the level filled up to eight characters, the source and the
message. -/
def LogRecord.line (r : LogRecord) (time : String) : String :=
  let level := r.level.name
  time ++ "  " ++ level ++ String.ofList (List.replicate (8 - level.length) ' ') ++ "  " ++
    r.source.name ++ "  " ++ r.message ++ "\n"

end DualToolchain
