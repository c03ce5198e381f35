import DualToolchain.Proofs.CommandLine.Given
import DualToolchain.Proofs.Program.ExitCode
import DualToolchain.Proofs.Run.Launches
import DualToolchain.Proofs.Settings.Agreement

/-! Options come before settings. What the program does depends on its settings only where no option
of the command line speaks for them; a directory that is given as two dashes alone does not. -/

namespace DualToolchain.Program

open CommandLine

variable {w : World} {argv : List String} {args : Arguments} {s s' : Settings}

/-- An option of the command line speaks for the setting. -/
def IsOverridden (argv : List String) : SettingName → Prop
  | .projectDir => ∃ value, lastValue argv .projectDir = some value ∧ value ≠ "--"
  | .receiptDir => ∃ value, lastValue argv .receiptDir = some value ∧ value ≠ "--"
  | .capture => ∃ on, lastCapture argv = some on
  | .logLevel => Gives argv .verbose
  | _ => False

/-- The settings are the same but for those that options speak for. -/
def AgreeBesides (argv : List String) (s s' : Settings) : Prop :=
  ∀ name, ¬ IsOverridden argv name → s'.value name = s.value name

/-- A value that gives no path is two dashes alone, so it speaks for nothing. -/
theorem pathOfValue_eq_none_iff {value : String} : pathOfValue value = none ↔ value = "--" := by
  rw [pathOfValue]
  split_ifs with h <;> simp [h]

theorem chosenDir_congr {value : Option String} {setting setting' : Option String}
    (h : (¬ ∃ v, value = some v ∧ v ≠ "--") → setting' = setting) :
    chosenDir (value.bind pathOfValue) setting' = chosenDir (value.bind pathOfValue) setting := by
  cases hp : value.bind pathOfValue with
  | some p => rfl
  | none =>
    rw [h]
    rintro ⟨v, rfl, hv⟩
    exact hv (pathOfValue_eq_none_iff.mp hp)

namespace AgreeBesides

theorem projectDir (h : AgreeBesides argv s s') (hargs : parse argv = .arguments args) :
    chosenDir args.projectDir s'.projectDir = chosenDir args.projectDir s.projectDir := by
  rw [(overrides_of_parse hargs).1]
  exact chosenDir_congr fun hnot => SettingValue.optional.inj (h .projectDir hnot)

theorem receiptDir (h : AgreeBesides argv s s') (hargs : parse argv = .arguments args) :
    chosenDir args.receiptDir s'.receiptDir = chosenDir args.receiptDir s.receiptDir := by
  rw [(overrides_of_parse hargs).2.1]
  exact chosenDir_congr fun hnot => SettingValue.optional.inj (h .receiptDir hnot)

theorem capture (h : AgreeBesides argv s s') (hargs : parse argv = .arguments args) :
    args.capture.getD s'.capture = args.capture.getD s.capture := by
  rw [(overrides_of_parse hargs).2.2]
  cases hlast : lastCapture argv with
  | some on => rfl
  | none => exact SettingValue.flag.inj (h .capture fun ⟨on, hon⟩ => by simp [hlast] at hon)

theorem level (h : AgreeBesides argv s s') (hargs : parse argv = .arguments args) :
    (if args.verbose then LogLevel.debug else s'.logLevel) =
      if args.verbose then LogLevel.debug else s.logLevel := by
  split_ifs with hv
  · rfl
  · refine SettingValue.level.inj (h .logLevel fun hgives => hv ?_)
    exact (isSet_iff_gives hargs (.inr (.inr rfl))).mpr hgives

/-- No option speaks for the program and the toolchains. -/
theorem profile (h : AgreeBesides argv s s') : s'.profile = s.profile := by
  have hprogram := SettingValue.text.inj (h .program id)
  have hpinned := SettingValue.text.inj (h .pinned id)
  have hstable := SettingValue.text.inj (h .stable id)
  rw [Settings.profile, Settings.profile, hprogram, hpinned, hstable]

theorem start (h : AgreeBesides argv s s') (hargs : parse argv = .arguments args)
    (environment : Environment) (trace : Trace) (profile : Profile) :
    Program.start { w with environment := environment } trace args s' profile =
      Program.start w trace args s profile := by
  simp only [Program.start, launchSettings, h.projectDir hargs, h.receiptDir hargs,
    h.capture hargs, h.level hargs]

end AgreeBesides

/-! ### Capturing -/

/-- Everything that a start launches is captured or not as the settings of the processes say. -/
theorem start_launches_capture {trace : Trace} (ht : trace.launches = []) (profile : Profile) :
    ∀ launch ∈ (start w trace args s profile).trace.launches,
      launch.capture = args.capture.getD s.capture := by
  cases hlist : args.list with
  | true =>
    simp only [start, hlist, ↓reduceIte, Trace.launches_append, ht]
    exact List.forall_mem_nil _
  | false =>
    simp only [start, hlist, Bool.false_eq_true, ↓reduceIte]
    cases (chosenDir args.projectDir s.projectDir).filter fun p => !w.files.isDirectory p with
    | some missing =>
      simp only [(usageError_didNothing (w := w) ht _).1]
      exact List.forall_mem_nil _
    | none =>
      simp only [Trace.launches_append, ht, List.nil_append]
      refine Run.run_launches (fun i command launch hlaunch => ?_) w.clock w.files
      rw [Launcher.processes, ProcessSettings.run_launches] at hlaunch
      obtain rfl := List.mem_singleton.mp hlaunch
      rfl

/-- The last option about capturing decides for every launch. -/
theorem run_launches_capture (hargs : parse argv = .arguments args) {on : Bool}
    (hon : lastCapture argv = some on) :
    ∀ launch ∈ (run w argv).trace.launches, launch.capture = on := by
  have hquiet := errLines_launches (((envFileText w.files).map EnvFile.warnings).getD [])
  simp only [run, hargs, withArguments]
  cases Settings.read w.environment (envFileText w.files) with
  | error errors =>
    simp only [(usageError_didNothing (w := w) hquiet _).1]
    exact List.forall_mem_nil _
  | ok s =>
    simp only
    cases s.profile with
    | error fault =>
      simp only [(usageError_didNothing (w := w) hquiet _).1]
      exact List.forall_mem_nil _
    | ok profile =>
      have hcapture : args.capture.getD s.capture = on := by
        rw [(overrides_of_parse hargs).2.2, hon]
        rfl
      rw [← hcapture]
      exact start_launches_capture hquiet profile

/-! ### The program -/

/-- Two environments, on the same files, whose settings are the same but for those that options of
the command line speak for, make no difference at all: the program ends in the same way, with the
same output, launches and files. Every launch is captured or not as the last option about it says. -/
theorem run_of_agreeBesides (hargs : parse argv = .arguments args) {environment : Environment}
    (hs : Settings.read w.environment (envFileText w.files) = .ok s)
    (hs' : Settings.read environment (envFileText w.files) = .ok s')
    (h : AgreeBesides argv s s') :
    run { w with environment := environment } argv = run w argv ∧
    ∀ on, lastCapture argv = some on →
      ∀ launch ∈ (run w argv).trace.launches, launch.capture = on := by
  refine ⟨?_, fun on hon => run_launches_capture hargs hon⟩
  simp only [run, hargs, withArguments, hs, hs', h.profile]
  cases s.profile with
  | error fault => rfl
  | ok profile => exact h.start hargs environment _ profile

/-- All four settings are overridden, the directory of the project by an empty text and capturing
twice. -/
theorem run_of_agreeBesides_all :
    let argv := ["-v", "--project-dir", "", "--no-capture", "build", "--rec=out", "--cap"]
    let environment : Environment :=
      [("MATRIX_PROJECT_DIR", "gone"), ("MATRIX_RECEIPT_DIR", "elsewhere"),
        ("MATRIX_CAPTURE_OUTPUT", "no"), ("MATRIX_LOG_LEVEL", "error")]
    let w : World :=
      { environment := []
        files := .empty
        processes := [⟨.completed 0 [] [], 0.5, 0.75⟩, ⟨.completed 0 [] [], 0.5, 0.75⟩]
        clock := fun _ => 0 }
    let s : Settings :=
      { projectDir := some "gone", receiptDir := some "elsewhere", logLevel := .error }
    Settings.read w.environment (envFileText w.files) = .ok {} ∧
      Settings.read environment (envFileText w.files) = .ok s ∧ AgreeBesides argv {} s ∧
      lastCapture argv = some true ∧ (run w argv).ending = .returned 0 ∧
      (run w argv).trace.launches.length = 2 ∧
      run { w with environment := environment } argv = run w argv ∧
      ∀ launch ∈ (run w argv).trace.launches, launch.capture = true := by
  intro argv environment w s
  have hargs : parse argv = .arguments ⟨["build"], false, false, some true,
      some (.ofString "out"), some (.ofString ""), true⟩ := by decide +kernel
  have hs : Settings.read w.environment (envFileText w.files) = .ok {} := by decide +kernel
  have hs' : Settings.read environment (envFileText w.files) = .ok s := by decide +kernel
  have hcapture : lastCapture argv = some true := by decide +kernel
  have hagree : AgreeBesides argv {} s := by
    intro name hnot
    cases name
    case projectDir => exact absurd ⟨"", by decide +kernel, by decide⟩ hnot
    case receiptDir => exact absurd ⟨"out", by decide +kernel, by decide⟩ hnot
    case capture => rfl
    case logLevel =>
      exact absurd ⟨"-v", by decide, .option .verbose, by decide +kernel, by decide⟩ hnot
    all_goals rfl
  obtain ⟨hrun, hlaunches⟩ := run_of_agreeBesides hargs hs hs' hagree
  exact ⟨hs, hs', hagree, hcapture, by decide +kernel, by decide +kernel, hrun,
    hlaunches true hcapture⟩

/-- The directory of the project is given as two dashes alone, a directory that is there, and yet
the setting is in effect: of two that differ in nothing else one is used and the other is refused. -/
theorem not_run_of_projectDir_dashes :
    let argv := ["build", "--dry-run", "--project-dir=--"]
    let environment : Environment := [("MATRIX_PROJECT_DIR", "gone")]
    let w : World :=
      { environment := [], files := ⟨[(["--"], .directory)], []⟩, processes := [],
        clock := fun _ => 0 }
    let s : Settings := { projectDir := some "gone" }
    (∃ args, parse argv = .arguments args) ∧ lastValue argv .projectDir = some "--" ∧
      w.files.isDirectory (.ofString "--") = true ∧
      Settings.read w.environment (envFileText w.files) = .ok {} ∧
      Settings.read environment (envFileText w.files) = .ok s ∧
      (∀ name, name ≠ .projectDir → s.value name = Settings.value {} name) ∧
      (run w argv).ending = .returned 0 ∧
      (run { w with environment := environment } argv).ending = .exited 2 := by
  intro argv environment w s
  have hargs : parse argv = .arguments { targets := ["build"], dryRun := true } := by
    decide +kernel
  refine ⟨⟨_, hargs⟩, by decide +kernel, by decide +kernel, by decide +kernel, by decide +kernel,
    ?_, by decide +kernel, by decide +kernel⟩
  intro name hname
  cases name <;> first | rfl | exact absurd rfl hname

end DualToolchain.Program
