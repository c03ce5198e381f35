import DualToolchain.Program
import Mathlib.Tactic.Common

/-! How the program comes to return: the arguments, the settings and the profile are read, and what
follows the warnings on the environment file is the list of targets or a run. -/

namespace DualToolchain.Program

variable {w : World} {args : CommandLine.Arguments} {code : Int}

def request (args : CommandLine.Arguments) (s : Settings) (profile : Profile) : Request where
  names := args.targets
  profile := profile
  outputDir := chosenDir args.receiptDir s.receiptDir
  dryRun := args.dryRun
  projectDir := chosenDir args.projectDir s.projectDir

def processSettings (w : World) (args : CommandLine.Arguments) (s : Settings) : ProcessSettings :=
  launchSettings w args s (chosenDir args.projectDir s.projectDir)

def report (w : World) (args : CommandLine.Arguments) (s : Settings) (profile : Profile) :
    Run.Report :=
  (request args s profile).run (.processes (processSettings w args s) w.processes) w.clock w.files

/-- A start that returns and does not list the targets has made a run, which has given a receipt. -/
theorem start_of_returned {trace : Trace} {s : Settings} {profile : Profile}
    (hlist : args.list = false) (h : (start w trace args s profile).ending = .returned code) :
    (∀ dir, chosenDir args.projectDir s.projectDir = some dir → w.files.isDirectory dir = true) ∧
    (∃ r, (report w args s profile).outcome = .ok r ∧ r.exitCode = code) ∧
    (start w trace args s profile).trace = trace ++ (report w args s profile).trace ∧
    (start w trace args s profile).files = (report w args s profile).files := by
  simp only [start, hlist, Bool.false_eq_true, ↓reduceIte] at h ⊢
  cases hd : (chosenDir args.projectDir s.projectDir).filter fun p => !w.files.isDirectory p with
  | some missing => simp [hd, usageError] at h
  | none =>
    simp only [hd] at h ⊢
    refine ⟨fun dir hdir => ?_, ?_, rfl, rfl⟩
    · simpa [hdir] using hd
    · cases ho : (report w args s profile).outcome with
      | error fault =>
        rw [report, request, processSettings] at ho
        simp [ho] at h
      | ok r =>
        rw [report, request, processSettings] at ho
        exact ⟨r, rfl, by simpa [ho] using h⟩

/-- A program that returns and does not list the targets has read its settings and made a run, which
has given a receipt; what it wrote before are the warnings on the environment file. -/
theorem run_of_returned {argv : List String} (hargs : CommandLine.parse argv = .arguments args)
    (hlist : args.list = false) (h : (run w argv).ending = .returned code) :
    ∃ s profile, Settings.read w.environment (envFileText w.files) = .ok s ∧
      s.profile = .ok profile ∧
      (∀ dir, chosenDir args.projectDir s.projectDir = some dir →
        w.files.isDirectory dir = true) ∧
      (∃ r, (report w args s profile).outcome = .ok r ∧ r.exitCode = code) ∧
      (run w argv).trace =
        errLines (((envFileText w.files).map EnvFile.warnings).getD []) ++
          (report w args s profile).trace ∧
      (run w argv).files = (report w args s profile).files := by
  simp only [run, hargs, withArguments] at h ⊢
  cases hs : Settings.read w.environment (envFileText w.files) with
  | error errors => simp [hs, usageError] at h
  | ok s =>
    cases hp : s.profile with
    | error fault => simp [hs, hp, usageError] at h
    | ok profile =>
      simp only [hs, hp] at h ⊢
      obtain ⟨hdir, hreport, htrace, hfiles⟩ := start_of_returned hlist h
      exact ⟨s, profile, rfl, hp, hdir, hreport, htrace, hfiles⟩

end DualToolchain.Program
