import DualToolchain.Proofs.CommandLine
import DualToolchain.Proofs.Run.DryRun
import DualToolchain.Proofs.Run.Relay

/-! How the program ends. If it leaves early or lists the targets, nothing is launched and no file
is touched. If it returns from a run, the exit code tells whether all that was planned succeeded,
whether a name was unknown, or how the first failing launch came out. -/

namespace DualToolchain

/-! ### One launch -/

/-- The program to start was not found. -/
def LaunchFailure.IsNotFound : LaunchFailure → Prop
  | .system number _ _ => number = 2
  | .notFound _ => True
  | .other _ => False

/-- The process ran and returned zero. -/
def ProcessOutcome.IsSuccess (o : ProcessOutcome) : Prop :=
  ∃ stdout stderr, o = .completed 0 stdout stderr

/-- The launch failed, and this is the exit code for it. -/
inductive ProcessOutcome.FailsWith : ProcessOutcome → Int → Prop where
  | positive {returnCode : Int} (stdout stderr : List UInt8) (h : 0 < returnCode) :
    FailsWith (.completed returnCode stdout stderr) returnCode
  /-- The process was ended by a signal. -/
  | negative {returnCode : Int} (stdout stderr : List UInt8) (h : returnCode < 0) :
    FailsWith (.completed returnCode stdout stderr) 1
  | notFound {failure : LaunchFailure} (h : failure.IsNotFound) : FailsWith (.failed failure) 127
  | refused {failure : LaunchFailure} (h : ¬ failure.IsNotFound) : FailsWith (.failed failure) 126

theorem LaunchFailure.failsWith (f : LaunchFailure) :
    (ProcessOutcome.failed f).FailsWith f.exitCode := by
  by_cases hf : f.IsNotFound
  · have hcode : f.exitCode = 127 := by
      cases f with
      | system number text file =>
        obtain rfl : number = 2 := hf
        rfl
      | notFound message => rfl
      | other message => exact hf.elim
    rw [hcode]
    exact .notFound hf
  · have hcode : f.exitCode = 126 := by
      unfold exitCode
      split
      · exact absurd rfl hf
      · exact absurd trivial hf
      · rfl
    rw [hcode]
    exact .refused hf

namespace Run

section Call

variable {program : String} {s : ProcessSettings} {runs : List ProcessRun} {c : Call}

theorem Call.isSuccess_iff (h : c.IsAnswered program (.processes s runs)) :
    (c.outcome runs).IsSuccess ↔ c.completion.exitCode = 0 := by
  obtain ⟨-, -, -, ⟨out, err, message, ho, -⟩ | ⟨f, ho, hcode, -⟩⟩ := ProcessSettings.run_cases h
  · rw [Call.outcome, ProcessRun.nth, ho]
    simp [ProcessOutcome.IsSuccess]
  · rw [Call.outcome, ProcessRun.nth, ho, hcode]
    simp [ProcessOutcome.IsSuccess, f.exitCode_ne_zero]

theorem Call.failsWith (h : c.IsAnswered program (.processes s runs))
    (hc : c.completion.exitCode ≠ 0) : (c.outcome runs).FailsWith c.completion.runExitCode := by
  obtain ⟨-, -, -, ⟨out, err, message, ho, -⟩ | ⟨f, ho, hcode, -⟩⟩ := ProcessSettings.run_cases h
  · rw [Call.outcome, ProcessRun.nth, ho, Completion.runExitCode]
    split_ifs with hpos
    · exact .positive out err hpos
    · exact .negative out err (by omega)
  · have hrun : c.completion.runExitCode = f.exitCode := by
      have hpos : 0 < f.exitCode := by
        unfold LaunchFailure.exitCode
        split <;> decide
      rw [Completion.runExitCode, hcode, if_pos hpos]
    rw [Call.outcome, ProcessRun.nth, ho, hrun]
    exact f.failsWith

end Call

/-! ### One run -/

/-- What the exit code of a run over processes tells. -/
structure CodeTells (q : Request) (runs : List ProcessRun) (t : Trace) (code : Int) : Prop where
  zero_iff : code = 0 ↔ (∀ name ∈ q.requested, ¬ Target.IsUnknown name) ∧
    (q.dryRun = true ∨ ∃ plan, Plan.resolve q.requested q.profile.selectors = .ok plan ∧
      t.commands = Plan.commands q.profile.program plan ∧
      ∀ o ∈ launchedOutcomes runs t, o.IsSuccess)
  unknown : ∀ name ∈ q.requested, Target.IsUnknown name → code = 2 ∧ t.launches = []
  /-- The first launch that fails is the last one. -/
  failed : (∀ name ∈ q.requested, ¬ Target.IsUnknown name) → code ≠ 0 →
    ∃ front last, launchedOutcomes runs t = front ++ [last] ∧ (∀ o ∈ front, o.IsSuccess) ∧
      last.FailsWith code

/-- The exit code tells nothing but of the launches. -/
theorem CodeTells.of_launches_eq {q : Request} {runs : List ProcessRun} {t t' : Trace} {code : Int}
    (h : CodeTells q runs t code) (ht : t'.launches = t.launches) : CodeTells q runs t' code := by
  have hcommands : t'.commands = t.commands := congrArg (List.map _) ht
  have houtcomes : launchedOutcomes runs t' = launchedOutcomes runs t := by
    rw [launchedOutcomes, hcommands, launchedOutcomes]
  obtain ⟨hzero, hunknown, hfailed⟩ := h
  rw [← hcommands, ← houtcomes] at hzero
  rw [← ht] at hunknown
  rw [← houtcomes] at hfailed
  exact ⟨hzero, hunknown, hfailed⟩

variable {q : Request} {s : ProcessSettings} {runs : List ProcessRun} {clock : Clock}
  {files : FileTree} {r : Receipt}

theorem receiptOf_exitCode (q : Request) (clock : Clock) (records : List InvocationRecord)
    (stop : Option Stop) : (receiptOf q clock records stop).exitCode = exitCodeOf stop := by
  rw [receiptOf_eq]
  rfl

/-- A run that no completion stops has launched all commands of its plan. -/
theorem calls_map_command_of_ending_eq_none {program : String}
    {answer : Nat → List String → Completion} {plan : List Phase}
    (h : ending (calls program answer 0 (Plan.steps plan)) = none) :
    (calls program answer 0 (Plan.steps plan)).map (·.command program) =
      Plan.commands program plan := by
  have hsteps := calls_map_step_fst program answer (Plan.steps plan) 0
  rw [length_calls_of_ending_eq_none h, List.take_length] at hsteps
  have hmap := congrArg (List.map fun s : Step => s.invocation.command program) hsteps
  rw [List.map_map] at hmap
  exact hmap

section Calls

variable {program : String} {cs : List Call} (horder : InOrder cs)
  (hanswered : ∀ c ∈ cs, c.IsAnswered program (.processes s runs))
include horder hanswered

theorem isSuccess_of_mem_dropLast {c : Call} (hc : c ∈ cs.dropLast) :
    (c.outcome runs).IsSuccess :=
  (Call.isSuccess_iff (hanswered c (List.dropLast_subset _ hc))).mpr
    (horder.exitCode_of_mem_dropLast hc)

theorem isSuccess_of_ending_eq_none (hend : ending cs = none) {c : Call} (hc : c ∈ cs) :
    (c.outcome runs).IsSuccess := by
  rcases List.eq_nil_or_concat cs with rfl | ⟨front, last, rfl⟩
  · contradiction
  · have hfront := @isSuccess_of_mem_dropLast _ _ _ _ horder hanswered c
    rw [List.concat_eq_append] at hc hend hfront
    rcases List.mem_append.mp hc with hc | hc
    · exact hfront (by rwa [List.dropLast_concat])
    · obtain rfl := List.mem_singleton.mp hc
      have hstop : c.completion.stop? = none := by simpa [ending] using hend
      exact (Call.isSuccess_iff (hanswered c (by simp))).mpr
        ((Completion.stop?_eq_none_iff _).mp hstop)

end Calls

/-- A real run ends with zero if all of its calls succeeded, and else with the code of the last one,
which is the first that failed. -/
theorem run_codeTells_of_plan {plan : List Phase} (hq : q.dryRun = false)
    (hp : Plan.resolve q.requested q.profile.selectors = .ok plan)
    (hr : (q.run (.processes s runs) clock files).outcome = .ok r) :
    CodeTells q runs (q.run (.processes s runs) clock files).trace r.exitCode := by
  have hknown := (Plan.exists_resolve_eq_ok_iff _ _).mp ⟨plan, hp⟩
  obtain ⟨hanswered, -, -, hreceipt⟩ := run_trace hq hp hr
  have hcommands := (run_shows_calls hq hp hr).commands_eq
  have horder := inOrder_calls q.profile.program (Launcher.processes s runs).completion
    (Plan.steps plan)
  have hall := @calls_map_command_of_ending_eq_none q.profile.program
    (Launcher.processes s runs).completion plan
  have hcode := congrArg (·.exitCode) hreceipt
  simp only [receiptOf_exitCode] at hcode
  generalize calls q.profile.program (Launcher.processes s runs).completion 0 (Plan.steps plan) = cs
    at hanswered hcommands horder hall hcode
  have houtcomes : launchedOutcomes runs (q.run (.processes s runs) clock files).trace =
    cs.map (Call.outcome runs) := launchedOutcomes_of_calls horder hcommands
  rcases ending_cases cs with hend | ⟨last, hlast, hfails, hend⟩
  · rw [hend] at hcode
    refine ⟨iff_of_true hcode ⟨hknown, .inr ⟨plan, hp, hcommands.trans (hall hend), ?_⟩⟩,
      fun name hmem hu => absurd hu (hknown name hmem), fun _ hne => absurd hcode hne⟩
    rw [houtcomes, List.forall_mem_map]
    exact fun c hc => isSuccess_of_ending_eq_none horder hanswered hend hc
  · rw [hend] at hcode
    obtain ⟨front, rfl⟩ := List.getLast?_eq_some_iff.mp hlast
    have hansweredLast := hanswered last (by simp)
    have hfailed := Call.failsWith hansweredLast hfails
    have hne : r.exitCode ≠ 0 := by
      rw [hcode]
      exact Int.ne_of_gt last.completion.runExitCode_pos
    rw [List.map_append] at houtcomes
    refine ⟨iff_of_false hne ?_, fun name hmem hu => absurd hu (hknown name hmem), fun _ _ => ?_⟩
    · rintro ⟨-, hdry | ⟨-, -, -, hsuccess⟩⟩
      · simp [hq] at hdry
      · rw [houtcomes] at hsuccess
        exact hfails ((Call.isSuccess_iff hansweredLast).mp (hsuccess _ (by simp)))
    · refine ⟨_, _, houtcomes, ?_, hcode ▸ hfailed⟩
      rw [List.forall_mem_map]
      intro c hc
      exact isSuccess_of_mem_dropLast horder hanswered (by rwa [List.dropLast_concat])

theorem run_codeTells (hr : (q.run (.processes s runs) clock files).outcome = .ok r) :
    CodeTells q runs (q.run (.processes s runs) clock files).trace r.exitCode := by
  cases hp : Plan.resolve q.requested q.profile.selectors with
  | error e =>
    have hunknown : ∃ name ∈ q.requested, Target.IsUnknown name := by
      have hfind := (Plan.resolve_eq_error_iff _ _ e).mp hp
      exact ⟨e.name, List.mem_of_find?_eq_some hfind, by simpa using List.find?_some hfind⟩
    obtain ⟨-, -, hcommands, rfl⟩ | ⟨plan, hplan, -⟩ := run_cases hr
    · have hlaunches := List.map_eq_nil_iff.mp hcommands
      obtain ⟨name, hmem, hu⟩ := hunknown
      exact ⟨iff_of_false (by simp [receipt]) fun h => h.1 name hmem hu,
        fun _ _ _ => ⟨rfl, hlaunches⟩, fun hknown => absurd hu (hknown name hmem)⟩
    · simp [hp] at hplan
  | ok plan =>
    have hknown := (Plan.exists_resolve_eq_ok_iff _ _).mp ⟨plan, hp⟩
    cases hq : q.dryRun with
    | false => exact run_codeTells_of_plan hq hp hr
    | true =>
      obtain ⟨-, hreceipt⟩ := run_trace_of_dryRun hq hp hr
      have hcode : r.exitCode = 0 := by
        rw [hreceipt]
        rfl
      exact ⟨iff_of_true hcode ⟨hknown, .inl hq⟩,
        fun name hmem hu => absurd hu (hknown name hmem), fun _ hne => absurd hcode hne⟩

end Run

namespace Program

variable {w : World} {argv : List String}

/-- The arguments, the settings and the profile can be used, and so can the directory of the
project, unless it is only the targets that are listed. -/
def IsUsable (w : World) (argv : List String) : Prop :=
  ∃ args s profile, CommandLine.parse argv = .arguments args ∧
    Settings.read w.environment (envFileText w.files) = .ok s ∧ s.profile = .ok profile ∧
    (args.list = true ∨ ∀ dir, chosenDir args.projectDir s.projectDir = some dir →
      w.files.isDirectory dir = true)

theorem errLines_launches (lines : List String) : Trace.launches (errLines lines) = [] := by
  rw [Trace.launches, List.filterMap_eq_nil_iff]
  intro e he
  obtain ⟨line, -, rfl⟩ := List.mem_map.mp he
  rfl

/-- Nothing was launched and no file was touched. -/
def Result.DidNothing (r : Result) (w : World) : Prop :=
  r.trace.launches = [] ∧ r.files = w.files

theorem usageError_didNothing {trace : Trace} (h : trace.launches = []) (message : String) :
    (usageError trace w.files message).DidNothing w := by
  constructor
  · rw [usageError, Trace.launches_append, h]
    rfl
  · rfl

/-- A start lists the targets, or leaves because of the project directory, or makes a run. -/
theorem start_cases {trace : Trace} (ht : trace.launches = []) (args : CommandLine.Arguments)
    (s : Settings) (profile : Profile) :
    let result := start w trace args s profile
    let DirectoryFound : Prop := ∀ dir, chosenDir args.projectDir s.projectDir = some dir →
      w.files.isDirectory dir = true
    (args.list = true ∧ result.ending = .returned 0 ∧ result.DidNothing w) ∨
    (args.list = false ∧ ¬ DirectoryFound ∧ (∃ code, result.ending = .exited code) ∧
      result.DidNothing w) ∨
    (args.list = false ∧ DirectoryFound ∧ ∀ code, result.ending ≠ .exited code) := by
  intro result DirectoryFound
  cases hlist : args.list with
  | true =>
    have hresult : result = ⟨.returned 0, trace ++ [.out (Utf8.encode (listText profile))],
        w.files, if args.verbose then .debug else s.logLevel⟩ := by
      simp only [result, start, hlist, ↓reduceIte]
    rw [hresult]
    refine .inl ⟨rfl, rfl, ?_, rfl⟩
    rw [Trace.launches_append, ht]
    rfl
  | false =>
    simp only [result, start, hlist, Bool.false_eq_true, ↓reduceIte]
    cases hd : (chosenDir args.projectDir s.projectDir).filter fun p => !w.files.isDirectory p with
    | some missing =>
      obtain ⟨hdir, hmissing⟩ := Option.filter_eq_some_iff.mp hd
      refine .inr (.inl ⟨trivial, fun hfound => ?_, ⟨2, rfl⟩, usageError_didNothing ht _⟩)
      simp [hfound missing hdir] at hmissing
    | none =>
      refine .inr (.inr ⟨trivial, fun dir hdir => ?_, fun code => ?_⟩)
      · simpa [hdir] using hd
      · simp only
        split <;> simp

theorem run_cases (w : World) (argv : List String) :
    let result := run w argv
    (¬ IsUsable w argv ∧ (∃ code, result.ending = .exited code) ∧ result.DidNothing w) ∨
    ∃ args, CommandLine.parse argv = .arguments args ∧ IsUsable w argv ∧
      ((args.list = true ∧ result.ending = .returned 0 ∧ result.DidNothing w) ∨
        (args.list = false ∧ ∀ code, result.ending ≠ .exited code)) := by
  unfold run IsUsable
  cases hargs : CommandLine.parse argv with
  | help => exact .inl ⟨by simp, ⟨0, rfl⟩, rfl, rfl⟩
  | version => exact .inl ⟨by simp, ⟨0, rfl⟩, rfl, rfl⟩
  | error e => exact .inl ⟨by simp, ⟨2, rfl⟩, rfl, rfl⟩
  | arguments args =>
    have hquiet := errLines_launches (((envFileText w.files).map EnvFile.warnings).getD [])
    cases hs : Settings.read w.environment (envFileText w.files) with
    | error errors =>
      simp only [withArguments, hs]
      exact .inl ⟨by simp, ⟨2, rfl⟩, usageError_didNothing hquiet _⟩
    | ok s =>
      cases hp : s.profile with
      | error fault =>
        simp only [withArguments, hs, hp]
        exact .inl ⟨by simp [hp], ⟨2, rfl⟩, usageError_didNothing hquiet _⟩
      | ok profile =>
        simp only [withArguments, hs, hp]
        rcases start_cases hquiet args s profile with ⟨hlist, hcases⟩ |
          ⟨hlist, hmissing, hcases⟩ | ⟨hlist, hfound, hcases⟩
        · exact .inr ⟨args, rfl, ⟨args, s, profile, rfl, rfl, hp, .inl hlist⟩, .inl ⟨hlist, hcases⟩⟩
        · refine .inl ⟨?_, hcases⟩
          rintro ⟨args', s', profile', hargs', hs', -, husable⟩
          obtain rfl := CommandLine.Parsed.arguments.inj hargs'
          obtain rfl := Except.ok.inj hs'
          rcases husable with h | h
          · simp [hlist] at h
          · exact hmissing h
        · exact .inr ⟨args, rfl, ⟨args, s, profile, rfl, rfl, hp, .inr hfound⟩,
            .inr ⟨hlist, hcases⟩⟩

end Program

/-- The program leaves early if and only if it cannot use what it is given. If it does, or if it is
to list the targets, it launches nothing and touches no file, whatever else is asked for. If it
returns from a run, it does so with zero if and only if all names are known and the run was a dry
one or all commands of the plan were launched and succeeded; with 2, and nothing launched, if a
name is unknown; and else with the code of the first launch that failed. -/
theorem Program.run_tells (w : World) (argv : List String) :
    let result := Program.run w argv
    ((∃ code, result.ending = .exited code) ↔ ¬ Program.IsUsable w argv) ∧
    ((∃ code, result.ending = .exited code) ∨ CommandLine.Gives argv .list →
      result.trace.launches = [] ∧ result.files = w.files) ∧
    ∀ code, result.ending = .returned code → ¬ CommandLine.Gives argv .list →
      ∃ args settings profile, CommandLine.parse argv = .arguments args ∧
        Settings.read w.environment (Program.envFileText w.files) = .ok settings ∧
        settings.profile = .ok profile ∧ (args.dryRun = true ↔ CommandLine.Gives argv .dryRun) ∧
        Run.CodeTells (Program.request args settings profile) w.processes result.trace code := by
  intro result
  rcases Program.run_cases w argv with ⟨hunusable, hexited, hnothing⟩ |
    ⟨args, hargs, husable, hcases⟩
  · refine ⟨iff_of_true hexited hunusable, fun _ => hnothing, fun code hreturned => ?_⟩
    obtain ⟨code', hcode'⟩ := hexited
    exact absurd (hcode'.symm.trans hreturned) (by simp)
  · have hlist : args.list = true ↔ CommandLine.Gives argv .list :=
      CommandLine.isSet_iff_gives hargs (.inl rfl)
    have hdry : args.dryRun = true ↔ CommandLine.Gives argv .dryRun :=
      CommandLine.isSet_iff_gives hargs (.inr (.inl rfl))
    rcases hcases with ⟨hlisted, hreturned, hnothing⟩ | ⟨hnot, hstays⟩
    · refine ⟨iff_of_false ?_ (not_not_intro husable), fun _ => hnothing, fun _ _ hgives => ?_⟩
      · rintro ⟨code, hexited⟩
        exact absurd (hreturned.symm.trans hexited) (by simp)
      · exact absurd (hlist.mp hlisted) hgives
    · have hnone : ¬ ∃ code, result.ending = .exited code := by
        rintro ⟨code, hexited⟩
        exact hstays code hexited
      refine ⟨iff_of_false hnone (not_not_intro husable), ?_, fun code hreturned _ => ?_⟩
      · rintro (hexited | hgives)
        · exact absurd hexited hnone
        · simp [hlist.mpr hgives] at hnot
      · obtain ⟨s, profile, hs, hp, -, ⟨r, hr, rfl⟩, htrace, -⟩ :=
          Program.run_of_returned hargs hnot hreturned
        have hlaunches : result.trace.launches =
            (Program.report w args s profile).trace.launches := by
          rw [htrace, Trace.launches_append, Program.errLines_launches, List.nil_append]
        exact ⟨args, s, profile, hargs, hs, hp, hdry,
          (Run.run_codeTells hr).of_launches_eq hlaunches⟩

/-- An abbreviated option lists the targets beside an unknown name and a directory for the receipt.
A directory that is not there ends the program, and the second of two processes is killed. -/
theorem Program.run_tells_second :
    let w : World :=
      { environment := [("MATRIX_RECEIPT_DIR", "out")]
        files := .empty
        processes := [⟨.completed 0 [] [], 0.5, 0.75⟩, ⟨.completed (-9) [] [], 0.5, 0.75⟩]
        clock := fun _ => 0 }
    let listed := Program.run w ["unknown", "--receipt-dir", "out", "--li"]
    let left := Program.run w ["build", "--capture", "--project-dir=gone"]
    let ran := Program.run w ["build"]
    CommandLine.Gives ["unknown", "--receipt-dir", "out", "--li"] .list ∧
      listed.ending = .returned 0 ∧ listed.trace.launches = [] ∧ listed.files = w.files ∧
      left.ending = .exited 2 ∧ left.trace.launches = [] ∧ left.files = w.files ∧
      ran.ending = .returned 1 ∧ ¬ CommandLine.Gives ["build"] .list ∧
      (∃ args settings profile, CommandLine.parse ["build"] = .arguments args ∧
        Run.CodeTells (Program.request args settings profile) w.processes ran.trace 1) ∧
      Run.launchedOutcomes w.processes ran.trace = w.processes.map (·.outcome) := by
  intro w listed left ran
  have hgives : CommandLine.Gives ["unknown", "--receipt-dir", "out", "--li"] .list :=
    ⟨"--li", by decide, .option .list, by decide +kernel, by decide⟩
  have hnot : ¬ CommandLine.Gives ["build"] .list := by
    rintro ⟨arg, harg, a, ha, hmem⟩
    obtain rfl : arg = "build" := by simpa using harg
    obtain rfl := Except.ok.inj ha
    simp [CommandLine.Arg.flags] at hmem
  have hleft : left.ending = .exited 2 := by decide +kernel
  have hran : ran.ending = .returned 1 := by decide +kernel
  obtain ⟨-, hlistedNothing, -⟩ := Program.run_tells w ["unknown", "--receipt-dir", "out", "--li"]
  obtain ⟨-, hleftNothing, -⟩ := Program.run_tells w ["build", "--capture", "--project-dir=gone"]
  obtain ⟨-, -, hreturned⟩ := Program.run_tells w ["build"]
  obtain ⟨hlistedLaunches, hlistedFiles⟩ := hlistedNothing (.inr hgives)
  obtain ⟨hleftLaunches, hleftFiles⟩ := hleftNothing (.inl ⟨2, hleft⟩)
  obtain ⟨args, settings, profile, hargs, -, -, -, hcode⟩ := hreturned 1 hran hnot
  exact ⟨hgives, by decide +kernel, hlistedLaunches, hlistedFiles, hleft, hleftLaunches, hleftFiles,
    hran, hnot, ⟨args, settings, profile, hargs, hcode⟩, by decide +kernel⟩

end DualToolchain
