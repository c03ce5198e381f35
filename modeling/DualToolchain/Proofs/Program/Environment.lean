import DualToolchain.Proofs.Program.ExitCode
import DualToolchain.Proofs.Run.Contents
import DualToolchain.Proofs.Settings.Agreement

/-! The environment comes before the environment file. Where the variables of all settings are set,
the text of the file has no part in what the program does, beyond the warnings on it: two trees that
are the same but for that text give the same end, output and launches. Files whose bytes are no text
are left out of the main result. -/

namespace DualToolchain.Program

open FileTree

variable {w : World} {files files' : FileTree} {l : Location}

/-- Without an environment file, or with one whose bytes encode some text. -/
def HoldsEnvText (files : FileTree) : Prop :=
  ∀ bytes, files.read? envFilePath = some bytes → ∃ text, Utf8.encode text = bytes

theorem HoldsEnvText.of_read? (text : String)
    (h : files.read? envFilePath = some (Utf8.encode text)) : HoldsEnvText files :=
  fun _ hbytes => ⟨text, Option.some.inj (h.symm.trans hbytes)⟩

theorem errLines_stdout (lines : List String) : Trace.stdout (errLines lines) = [] := by
  rw [Trace.stdout, List.flatMap_eq_nil_iff]
  intro e he
  obtain ⟨line, -, rfl⟩ := List.mem_map.mp he
  rfl

/-- Results that are the same but for the warnings at the beginning and the content of one file. -/
structure Result.AlikeBut (l : Location) (result result' : Result) : Prop where
  ending_eq : result'.ending = result.ending
  level_eq : result'.level = result.level
  trace : ∃ warnings warnings' rest,
    result.trace = errLines warnings ++ rest ∧ result'.trace = errLines warnings' ++ rest
  files : SameBut l result.files result'.files

namespace Result.AlikeBut

variable {result result' : Result}

theorem stdout_eq (h : result.AlikeBut l result') : result'.stdout = result.stdout := by
  obtain ⟨warnings, warnings', rest, ht, ht'⟩ := h.trace
  have hquiet := errLines_stdout warnings
  have hquiet' := errLines_stdout warnings'
  rw [Trace.stdout] at hquiet hquiet'
  rw [Result.stdout, Result.stdout, ht, ht', Trace.stdout, Trace.stdout, List.flatMap_append,
    List.flatMap_append, hquiet, hquiet']

theorem launches_eq (h : result.AlikeBut l result') :
    result'.trace.launches = result.trace.launches := by
  obtain ⟨warnings, warnings', rest, ht, ht'⟩ := h.trace
  rw [ht, ht', Trace.launches_append, Trace.launches_append, errLines_launches, errLines_launches]

end Result.AlikeBut

/-! ### The parts of the program -/

theorem usageError_alikeBut (h : SameBut l files files') (warnings warnings' : List String)
    (message : String) :
    (usageError (errLines warnings) files message).AlikeBut l
      (usageError (errLines warnings') files' message) :=
  ⟨rfl, rfl, ⟨warnings, warnings', _, rfl, rfl⟩, h⟩

theorem start_alikeBut (h : SameBut l w.files files') (warnings warnings' : List String)
    (args : CommandLine.Arguments) (s : Settings) (profile : Profile) :
    (start w (errLines warnings) args s profile).AlikeBut l
      (start { w with files := files' } (errLines warnings') args s profile) := by
  have hdirs : ∀ dir : Option Path, dir.filter (fun p => !files'.isDirectory p) =
      dir.filter fun p => !w.files.isDirectory p := by
    intro dir
    simp only [h.isDirectory]
  cases hlist : args.list with
  | true =>
    simp only [start, hlist, ↓reduceIte]
    exact ⟨rfl, rfl, ⟨warnings, warnings', _, rfl, rfl⟩, h⟩
  | false =>
    simp only [start, hlist, Bool.false_eq_true, ↓reduceIte, hdirs]
    cases (chosenDir args.projectDir s.projectDir).filter fun p => !w.files.isDirectory p with
    | some missing => exact usageError_alikeBut h warnings warnings' _
    | none =>
      obtain ⟨files'', hrun, h'⟩ := @Run.run_sameBut (request args s profile)
        (.processes (processSettings w args s) w.processes) w.clock l w.files files' h
      simp only [request, processSettings, launchSettings] at hrun h' ⊢
      rw [hrun]
      exact ⟨rfl, rfl, ⟨warnings, warnings', _, rfl, rfl⟩, h'⟩

theorem withArguments_alikeBut
    (hset : ∀ name : SettingName, (w.environment.lookup name.envKey).isSome)
    (h : SameBut l w.files files') (args : CommandLine.Arguments) :
    (withArguments w args).AlikeBut l (withArguments { w with files := files' } args) := by
  simp only [withArguments]
  rw [Settings.read_eq_of_lookup hset (envFileText files') (envFileText w.files)]
  cases Settings.read w.environment (envFileText w.files) with
  | error errors => exact usageError_alikeBut h _ _ _
  | ok s =>
    simp only
    cases s.profile with
    | error fault => exact usageError_alikeBut h _ _ _
    | ok profile => exact start_alikeBut h _ _ args s profile

theorem run_alikeBut (hset : ∀ name : SettingName, (w.environment.lookup name.envKey).isSome)
    (h : SameBut l w.files files') (argv : List String) :
    (run w argv).AlikeBut l (run { w with files := files' } argv) := by
  simp only [run]
  cases CommandLine.parse argv with
  | help => exact ⟨rfl, rfl, ⟨[], [], _, rfl, rfl⟩, h⟩
  | version => exact ⟨rfl, rfl, ⟨[], [], _, rfl, rfl⟩, h⟩
  | error e => exact usageError_alikeBut h [] [] _
  | arguments args => exact withArguments_alikeBut hset h args

/-- The environment beats the environment file. A setting that it gives is the same, or the same is
wrong with it, under all texts of the file, also without one; and where it gives all settings, trees
whose environment files are text and that are the same but for the content of one file, be it the
environment file, give the same end, standard output and launches, and stay the same but for that
file. -/
theorem run_of_environment (w : World) :
    (∀ name text, w.environment.lookup (SettingName.envKey name) = some text →
      ∀ file file' : Option String, Settings.AgreeOn name
        (Settings.read w.environment file) (Settings.read w.environment file')) ∧
    ((∀ name : SettingName, (w.environment.lookup name.envKey).isSome) →
      ∀ l files', HoldsEnvText w.files → HoldsEnvText files' → SameBut l w.files files' → ∀ argv,
        let result := run w argv
        let result' := run { w with files := files' } argv
        result'.ending = result.ending ∧ result'.stdout = result.stdout ∧
          result'.trace.launches = result.trace.launches ∧
          SameBut l result.files result'.files) := by
  refine ⟨fun name text hset => Settings.read_agreeOn hset, fun hset l files' _ _ h argv => ?_⟩
  have halike := run_alikeBut hset h argv
  exact ⟨halike.ending_eq, halike.stdout_eq, halike.launches_eq, halike.files⟩

/-- A file whose log level cannot be used, and one with a value that is never closed: where the
environment is empty the first one ends the program. -/
theorem run_of_environment_levels :
    let environment : Environment :=
      [("MATRIX_TOOLCHAIN_PROGRAM", "cargo"), ("MATRIX_PINNED_TOOLCHAIN", "1.31.0"),
        ("MATRIX_STABLE_TOOLCHAIN", "beta"), ("MATRIX_PROJECT_DIR", ""),
        ("MATRIX_RECEIPT_DIR", "out"), ("MATRIX_CAPTURE_OUTPUT", "yes"),
        ("MATRIX_LOG_LEVEL", "debug")]
    let text := "LOG_LEVEL=loud\nMATRIX_RECEIPT_DIR=elsewhere\n"
    let text' := "MATRIX_LOG_LEVEL=${MATRIX_LOG_LEVEL}\nSTABLE_TOOLCHAIN='never closed\n"
    let w : World :=
      { environment := environment
        files := ⟨[([".env"], .file (Utf8.encode text))], []⟩
        processes := []
        clock := fun _ => 0 }
    let files' := w.files.put [".env"] (.file (Utf8.encode text'))
    let result := run w ["build", "--dry-run"]
    let result' := run { w with files := files' } ["build", "--dry-run"]
    (∀ name : SettingName, (environment.lookup name.envKey).isSome) ∧
      HoldsEnvText w.files ∧ HoldsEnvText files' ∧ SameBut [".env"] w.files files' ∧
      (run { w with environment := [] } ["build", "--dry-run"]).ending = .exited 2 ∧
      Settings.AgreeOn .logLevel (Settings.read environment (some text))
        (Settings.read environment (some text')) ∧
      result.ending = .returned 0 ∧ result'.ending = .returned 0 ∧
      result'.stdout = result.stdout ∧ result'.trace.launches = result.trace.launches ∧
      SameBut [".env"] result.files result'.files := by
  intro environment text text' w files' result result'
  have hset : ∀ name : SettingName, (environment.lookup name.envKey).isSome := by
    intro name
    cases name <;> decide
  have htext : HoldsEnvText w.files := .of_read? text (by decide +kernel)
  have htext' : HoldsEnvText files' := .of_read? text' (by decide +kernel)
  have hsame : SameBut [".env"] w.files files' := .of_put rfl _
  obtain ⟨hread, hrun⟩ := run_of_environment w
  obtain ⟨hending, hstdout, hlaunches, hfiles⟩ :=
    hrun hset _ files' htext htext' hsame ["build", "--dry-run"]
  have hreturned : result.ending = .returned 0 := by decide +kernel
  exact ⟨hset, htext, htext', hsame, by decide +kernel, hread .logLevel "debug" rfl _ _, hreturned,
    hending.trans hreturned, hstdout, hlaunches, hfiles⟩

end DualToolchain.Program
