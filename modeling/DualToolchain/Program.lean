import DualToolchain.CommandLine.Arguments
import DualToolchain.CommandLine.Usage
import DualToolchain.Run
import DualToolchain.Settings

/-! The command line program: arguments, settings and files in, output, files and an exit code
out. The environment file is taken to be text: on one that is not UTF-8 the program stops with an
error of the decoder, an ending that is left out here. -/

namespace DualToolchain

structure World where
  environment : Environment
  files : FileTree
  processes : List ProcessRun
  /-- Whether the streams take text only. -/
  textOnly : Bool := false
  clock : Clock

/-- How the program ends: with a result, by leaving early, or by a fault. -/
inductive Ending where
  | returned (code : Int)
  | exited (code : Int)
  | fault (fault : Fault)
  deriving DecidableEq

namespace Program

/-- What the program leaves. Log records from `level` on are lines of standard error. -/
structure Result where
  ending : Ending
  trace : Trace
  files : FileTree
  level : LogLevel := .info

/-- The environment file that settings are read from, in the directory where the program runs. -/
def envFilePath : Path := .ofString ".env"

/-- The text of the environment file, if there is one. Bytes that encode no text are not refused but
replaced. -/
def envFileText (files : FileTree) : Option String :=
  (files.read? envFilePath).map Utf8.decode

def errLines (lines : List String) : Trace :=
  lines.map fun line => .err (Utf8.encode (line ++ "\n"))

def usageError (trace : Trace) (files : FileTree) (message : String) : Result :=
  ⟨.exited 2, trace ++ [.err (Utf8.encode (CommandLine.errorText message))], files, .info⟩

/-- A directory that an option gives or else a setting that is not empty. -/
def chosenDir (option : Option Path) (setting : Option String) : Option Path :=
  match option with
  | some p => some p
  | none => (setting.filter (· ≠ "")).map .ofString

/-- The settings as the options override them. -/
def launchSettings (w : World) (args : CommandLine.Arguments) (s : Settings)
    (directory : Option Path) : ProcessSettings where
  directory := directory
  capture := args.capture.getD s.capture
  textOnly := w.textOnly

/-- What the program does once arguments, settings and profile are known. -/
def start (w : World) (trace : Trace) (args : CommandLine.Arguments) (s : Settings)
    (profile : Profile) : Result :=
  let level := if args.verbose then .debug else s.logLevel
  if args.list then
    ⟨.returned 0, trace ++ [.out (Utf8.encode (listText profile))], w.files, level⟩
  else
    let projectDir := chosenDir args.projectDir s.projectDir
    match projectDir.filter fun p => !w.files.isDirectory p with
    | some missing =>
      usageError trace w.files ("project directory does not exist: " ++ missing.toString)
    | none =>
      let request : Request :=
        { names := args.targets
          profile := profile
          outputDir := chosenDir args.receiptDir s.receiptDir
          dryRun := args.dryRun
          projectDir := projectDir }
      let launcher := Launcher.processes (launchSettings w args s projectDir) w.processes
      let report := request.run launcher w.clock w.files
      let ending :=
        match report.outcome with
        | .ok receipt => .returned receipt.exitCode
        | .error fault => .fault fault
      ⟨ending, trace ++ report.trace, report.files, level⟩

/-- What the program does with the arguments: the settings are read, then the profile is made. -/
def withArguments (w : World) (args : CommandLine.Arguments) : Result :=
  let file := envFileText w.files
  let trace := errLines ((file.map EnvFile.warnings).getD [])
  match Settings.read w.environment file with
  | .error errors =>
    usageError trace w.files ("invalid MATRIX_* setting:\n" ++ SettingError.summary errors)
  | .ok s =>
    match s.profile with
    | .error fault => usageError trace w.files fault.message
    | .ok profile => start w trace args s profile

def run (w : World) (argv : List String) : Result :=
  match CommandLine.parse argv with
  | .help => ⟨.exited 0, [.out (Utf8.encode CommandLine.helpText)], w.files, .info⟩
  | .version => ⟨.exited 0, [.out (Utf8.encode CommandLine.versionText)], w.files, .info⟩
  | .error e => usageError [] w.files e.message
  | .arguments args => withArguments w args

/-- The mark that stands for the time of day in a line of the log. -/
def timeMark : String := "<time>"

def Result.stdout (r : Result) : List UInt8 :=
  Trace.stdout r.trace

def Result.stderr (r : Result) : List UInt8 :=
  Trace.stderr (some r.level) timeMark r.trace

end Program

/-- A result seen from outside the program: returning is leaving with the same code. -/
def Ending.asProcess : Ending → Ending
  | .returned code => .exited code
  | e => e

end DualToolchain
