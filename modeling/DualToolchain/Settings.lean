import DualToolchain.EnvFile.Expansion
import DualToolchain.Field
import DualToolchain.Log
import DualToolchain.Profile
import DualToolchain.Text.Uppercase
import DualToolchain.Text.Utf8

/-! Settings, read from the environment and from an environment file. The environment wins. In the
file a setting may also go by its name without the leading `MATRIX_`, which then has to have a
value that is not empty. -/

namespace DualToolchain

inductive SettingName where
  | program | pinned | stable | projectDir | receiptDir | capture | logLevel
  deriving DecidableEq

namespace SettingName

def bare : SettingName → String
  | .program => "TOOLCHAIN_PROGRAM"
  | .pinned => "PINNED_TOOLCHAIN"
  | .stable => "STABLE_TOOLCHAIN"
  | .projectDir => "PROJECT_DIR"
  | .receiptDir => "RECEIPT_DIR"
  | .capture => "CAPTURE_OUTPUT"
  | .logLevel => "LOG_LEVEL"

def envKey (s : SettingName) : String :=
  "MATRIX_" ++ s.bare

end SettingName

structure Settings where
  program : String := "cargo"
  pinned : String := "1.31.0"
  stable : String := "stable"
  projectDir : Option String := none
  receiptDir : Option String := none
  capture : Bool := false
  logLevel : LogLevel := .info
  deriving DecidableEq

/-- A setting whose value cannot be read. -/
structure SettingError where
  name : SettingName
  problem : FieldProblem
  input : String
  deriving DecidableEq

namespace Settings

/-- A value of the environment file that is not hidden by a later key without a value. -/
def fileValue (file : EnvFile.Values) (key : String) : Option String :=
  (file.lookup key).join

def given (env : Environment) (file : EnvFile.Values) (s : SettingName) : Option String :=
  match env.lookup s.envKey with
  | some text => some text
  | none =>
    match fileValue file s.envKey with
    | some text => some text
    | none => (fileValue file s.bare).filter (· ≠ "")

def readCapture : Option String → Except SettingError Bool
  | none => .ok false
  | some text =>
    match Checked.boolOfWord text with
    | .valid b => .ok b
    | .invalid _ => .error ⟨.capture, .notBoolValue, text⟩

def readLevel : Option String → Except SettingError LogLevel
  | none => .ok .info
  | some text =>
    match LogLevel.ofName? (upperText text) with
    | some level => .ok level
    | none => .error ⟨.logLevel, .notLogLevel, upperText text⟩

def errorOf {α : Type} : Except SettingError α → List SettingError
  | .ok _ => []
  | .error e => [e]

/-- The settings of an environment and of the values of an environment file, or everything that is
wrong with them. -/
def ofValues (env : Environment) (file : EnvFile.Values) : Except (List SettingError) Settings :=
  match readCapture (given env file .capture), readLevel (given env file .logLevel) with
  | .ok capture, .ok logLevel =>
    .ok
      { program := (given env file .program).getD "cargo"
        pinned := (given env file .pinned).getD "1.31.0"
        stable := (given env file .stable).getD "stable"
        projectDir := given env file .projectDir
        receiptDir := given env file .receiptDir
        capture := capture
        logLevel := logLevel }
  | capture, logLevel => .error (errorOf capture ++ errorOf logLevel)

def read (env : Environment) (file : Option String) : Except (List SettingError) Settings :=
  ofValues env ((file.map (EnvFile.values env)).getD [])

def profile (s : Settings) : Except ProfileFault Profile :=
  Profile.make s.program s.pinned s.stable Target.defaultName

end Settings

/-! ### Messages -/

namespace SettingError

/-- A text of at most fifty bytes. Of a longer one the middle is left out: what fits into 25 bytes
stays before it and what fits into 24 bytes after it. -/
def shortenedChars (cs : List Char) : List Char :=
  if (Utf8.encodeChars cs).length ≤ 50 then cs
  else Utf8.takeFitting 25 cs ++ ['.', '.', '.'] ++ (Utf8.takeFitting 24 cs.reverse).reverse

def shortened (s : String) : String :=
  String.ofList (shortenedChars s.toList)

def message (e : SettingError) : String :=
  e.name.bare ++ "\n  " ++ e.problem.message ++ " [type=" ++ e.problem.kind ++
    ", input_value=" ++ shortened (Quoted.quote e.input) ++ ", input_type=str]\n" ++
    "    For further information visit https://errors.pydantic.dev/2.11/v/" ++ e.problem.kind

def summary (errors : List SettingError) : String :=
  toString errors.length ++ " validation error" ++ (if errors.length = 1 then "" else "s") ++
    " for Settings\n" ++ "\n".intercalate (errors.map message)

end SettingError

end DualToolchain
