import DualToolchain.Proofs.Launcher

/-! Runs without a directory. They write nothing and meet no fault of a file, so with launchers that
answer they always give a receipt. What the commands print, how long they take and why they fail has
no part in what such a run does: two runs whose calls are answered with the same exit codes launch
the same commands and come to the same verdict. -/

namespace DualToolchain

namespace Run

variable {q : Request} {launcher : Launcher} {answer : Nat → List String → Completion}

/-! ### Nothing is refused -/

theorem saveStreams_of_unwritten (hd : q.outputDir = none) (files : FileTree) (index : Nat)
    (s : Step) (c : Completion) :
    saveStreams q files index s c = ⟨files, .ok ⟨none, none⟩⟩ := by
  simp only [saveStreams, hd]

theorem step_of_unwritten (hd : q.outputDir = none) (hq : q.dryRun = false)
    (hl : launcher.Answers answer) (st : RunState) (s : Step) (f : Fault) :
    (step q launcher st s).2 ≠ some (.fault f) := by
  have ha := hl.answer_eq st.records.length _ (s.invocation.command_ne_nil q.profile.program)
  simp only [step, hq, Bool.false_eq_true, ↓reduceIte, ha, conclude,
    saveStreams_of_unwritten hd]
  split_ifs <;> simp

theorem steps_of_unwritten (hd : q.outputDir = none) (hq : q.dryRun = false)
    (hl : launcher.Answers answer) (ss : List Step) (st : RunState) (f : Fault) :
    (steps q launcher st ss).2 ≠ some (.fault f) := by
  induction ss generalizing st with
  | nil => simp [steps]
  | cons s rest ih =>
    have hstep := step_of_unwritten hd hq hl st s f
    rw [steps]
    split
    · exact ih _
    · rename_i hs
      rwa [hs] at hstep

/-- No record names a file. -/
def WithoutPaths (records : List InvocationRecord) : Prop :=
  records.map withoutPaths = records

theorem step_withoutPaths (hd : q.outputDir = none) (launcher : Launcher) {st : RunState}
    (h : WithoutPaths st.records) (s : Step) :
    WithoutPaths (step q launcher st s).1.records := by
  have hadd : ∀ r : InvocationRecord, withoutPaths r = r → WithoutPaths (st.records ++ [r]) := by
    intro r hr
    rw [WithoutPaths, List.map_append, h, List.map_singleton, hr]
  simp only [step, conclude, saveStreams_of_unwritten hd]
  split_ifs
  · exact hadd _ rfl
  · split
    · exact h
    · split_ifs <;> exact hadd _ rfl

theorem steps_withoutPaths (hd : q.outputDir = none) (launcher : Launcher) (ss : List Step)
    {st : RunState} (h : WithoutPaths st.records) :
    WithoutPaths (steps q launcher st ss).1.records :=
  steps_invariant (P := fun st => WithoutPaths st.records)
    (fun _ s h => step_withoutPaths hd launcher h s) ss h

theorem step_files_of_unwritten (hd : q.outputDir = none) (launcher : Launcher) (st : RunState)
    (s : Step) : (step q launcher st s).1.files = st.files := by
  simp only [step, conclude, saveStreams_of_unwritten hd]
  split_ifs
  · rfl
  · split
    · rfl
    · split_ifs <;> rfl

theorem steps_files_of_unwritten (hd : q.outputDir = none) (launcher : Launcher) (ss : List Step)
    (st : RunState) : (steps q launcher st ss).1.files = st.files :=
  steps_invariant (P := fun st' => st'.files = st.files)
    (fun st' s h => (step_files_of_unwritten hd launcher st' s).trans h) ss rfl

/-- However it ends, a run without a directory leaves the files as they are. -/
theorem run_files_of_unwritten (hd : q.outputDir = none) (launcher : Launcher) (clock : Clock)
    (files : FileTree) : (q.run launcher clock files).files = files := by
  unfold Request.run
  split
  · simp only [finish, hd]
  · rename_i plan _
    have hs := steps_files_of_unwritten hd launcher (Plan.steps plan) (start q plan files)
    rw [start] at hs
    simp only [finish, hd]
    split <;> rename_i hsteps <;> rwa [hsteps] at hs

theorem finish_of_unwritten (hd : q.outputDir = none) (clock : Clock) (st : RunState)
    (status : Status) (reasons : List Reason) (exitCode : Int) :
    (finish q clock st status reasons exitCode).outcome =
      .ok (receipt q clock st.records status reasons exitCode) := by
  simp only [finish, hd]

/-- A real run without a directory gives a receipt, and its records are those of its calls. -/
theorem run_of_unwritten (hd : q.outputDir = none) (hq : q.dryRun = false)
    (hl : launcher.Answers answer) (clock : Clock) (files : FileTree) {plan : List Phase}
    (hp : Plan.resolve q.requested q.profile.selectors = .ok plan) :
    let cs := calls q.profile.program answer 0 (Plan.steps plan)
    (q.run launcher clock files).trace.commands = cs.map (·.command q.profile.program) ∧
    (q.run launcher clock files).outcome =
      .ok (receiptOf q clock (cs.map (·.record q.profile.program)) (ending cs)) := by
  have hf := steps_of_unwritten hd hq hl (Plan.steps plan) (start q plan files)
  have hw : WithoutPaths (steps q launcher (start q plan files) (Plan.steps plan)).1.records :=
    steps_withoutPaths hd launcher (Plan.steps plan) rfl
  obtain ⟨hend, htrace, hrecords⟩ := steps_of_no_fault hq hl _ _ hf
  rw [hw] at hrecords
  rw [run_eq_finish clock hp rfl hf]
  constructor
  · rw [finish_commands, htrace]
    simp [start, commands_of_calls hl]
  · rw [finish_of_unwritten hd, ← receiptOf_eq, hend, hrecords]
    rfl

/-- A run with an unknown name launches nothing and, without a directory, gives a receipt. -/
theorem run_of_unknown (hd : q.outputDir = none) (launcher : Launcher) (clock : Clock)
    (files : FileTree) {e : UnknownTarget}
    (he : Plan.resolve q.requested q.profile.selectors = .error e) :
    (q.run launcher clock files).trace.commands = [] ∧
    (q.run launcher clock files).outcome =
      .ok (receipt q clock [] .failed [.unknownTarget] 2) := by
  rw [run_eq_finish_of_unknown clock he]
  exact ⟨finish_commands .., finish_of_unwritten hd ..⟩

/-! ### Calls without their output -/

/-- A completion of which only the exit code is left. -/
def muted (c : Completion) : Completion :=
  ⟨c.exitCode, "", "", 0, none⟩

/-- The record without the reasons and the time, which the output decides. -/
def withoutDiagnosis (r : InvocationRecord) : InvocationRecord :=
  { r with reasons := [], durationMs := 0 }

theorem judge_status_muted (c : Completion) : (muted c).judge.status = c.judge.status := by
  by_cases hc : c.exitCode = 0
  · rw [(Completion.judge_status_eq_success_iff _).mpr hc,
      (Completion.judge_status_eq_success_iff (muted c)).mpr hc]
  · rw [Completion.judge_status_of_ne_zero hc,
      Completion.judge_status_of_ne_zero (c := muted c) hc]

namespace Call

def muted (c : Call) : Call :=
  { c with completion := Run.muted c.completion }

theorem withoutDiagnosis_record_muted (program : String) (c : Call) :
    withoutDiagnosis (c.muted.record program) = withoutDiagnosis (c.record program) := by
  simp only [record, settled, withoutDiagnosis, muted, judge_status_muted]
  rfl

end Call

/-- Which calls are made follows from the exit codes. -/
theorem calls_map_muted (program : String) (answer : Nat → List String → Completion)
    (ss : List Step) (i : Nat) :
    (calls program answer i ss).map Call.muted =
      calls program (fun i command => muted (answer i command)) i ss := by
  induction ss generalizing i with
  | nil => rfl
  | cons s rest ih =>
    simp only [calls, List.map_cons]
    have hcode : (muted (answer i (s.invocation.command program))).exitCode =
        (answer i (s.invocation.command program)).exitCode := rfl
    rw [hcode, ← ih]
    split_ifs <;> rfl

/-- What a receipt says of the whole run follows from the exit codes. -/
theorem verdict_of_muted (q : Request) (clock clock' : Clock)
    (records records' : List InvocationRecord) (cs : List Call) :
    (receiptOf q clock records (ending cs)).status =
      (receiptOf q clock' records' (ending (cs.map Call.muted))).status ∧
    (receiptOf q clock records (ending cs)).exitCode =
      (receiptOf q clock' records' (ending (cs.map Call.muted))).exitCode := by
  unfold ending
  rw [List.getLast?_map]
  cases cs.getLast? with
  | none => exact ⟨rfl, rfl⟩
  | some c =>
    have hcode : (muted c.completion).exitCode = c.completion.exitCode := rfl
    simp only [Option.map_some, Option.bind_some, Call.muted, Completion.stop?, hcode]
    split_ifs
    · exact ⟨rfl, rfl⟩
    · exact ⟨rfl, rfl⟩

/-! ### Two runs -/

/-- Two runs that did the same: the same commands were launched, both gave a receipt, and the
receipts agree on the verdict and on all of their records but the reasons and the times. -/
structure Report.DidTheSame (report report' : Report) : Prop where
  commands_eq : report.trace.commands = report'.trace.commands
  receipts : ∃ r r', report.outcome = .ok r ∧ report'.outcome = .ok r' ∧
    r.status = r'.status ∧ r.exitCode = r'.exitCode ∧
    r.invocations.map withoutDiagnosis = r'.invocations.map withoutDiagnosis

theorem run_didTheSame {launcher' : Launcher} {answer' : Nat → List String → Completion}
    (hd : q.outputDir = none) (hq : q.dryRun = false) (hl : launcher.Answers answer)
    (hl' : launcher'.Answers answer')
    (hcode : ∀ plan, Plan.resolve q.requested q.profile.selectors = .ok plan →
      ∀ i command, (Plan.commands q.profile.program plan)[i]? = some command →
        (answer i command).exitCode = (answer' i command).exitCode)
    (clock clock' : Clock) (files files' : FileTree) :
    (q.run launcher clock files).DidTheSame (q.run launcher' clock' files') := by
  cases hp : Plan.resolve q.requested q.profile.selectors with
  | error e =>
    obtain ⟨hc, hr⟩ := run_of_unknown hd launcher clock files hp
    obtain ⟨hc', hr'⟩ := run_of_unknown hd launcher' clock' files' hp
    exact ⟨hc.trans hc'.symm, _, _, hr, hr', rfl, rfl, rfl⟩
  | ok plan =>
    obtain ⟨hc, hr⟩ := run_of_unwritten hd hq hl clock files hp
    obtain ⟨hc', hr'⟩ := run_of_unwritten hd hq hl' clock' files' hp
    -- Without their output the calls of both runs are the same.
    have hcalls : (calls q.profile.program answer 0 (Plan.steps plan)).map Call.muted =
        (calls q.profile.program answer' 0 (Plan.steps plan)).map Call.muted := by
      rw [calls_map_muted, calls_map_muted]
      refine calls_congr _ _ fun i command hi => ?_
      rw [Nat.zero_add, muted, muted, hcode plan hp i command hi]
    generalize calls q.profile.program answer 0 (Plan.steps plan) = cs at hc hr hcalls
    generalize calls q.profile.program answer' 0 (Plan.steps plan) = cs' at hc' hr' hcalls
    have hv := verdict_of_muted q clock clock (cs.map (·.record q.profile.program)) [] cs
    have hv' := verdict_of_muted q clock' clock (cs'.map (·.record q.profile.program)) [] cs'
    rw [hcalls] at hv
    refine ⟨?_, _, _, hr, hr', ?_, ?_, ?_⟩
    · have hcommands := congrArg (List.map (Call.command q.profile.program)) hcalls
      rw [List.map_map, List.map_map] at hcommands
      rw [hc, hc']
      exact hcommands
    · exact hv.1.trans hv'.1.symm
    · exact hv.2.trans hv'.2.symm
    · have hrecords := congrArg
        (List.map fun c => withoutDiagnosis (Call.record q.profile.program c)) hcalls
      simp only [List.map_map, Function.comp_def, Call.withoutDiagnosis_record_muted] at hrecords
      simpa only [receiptOf_invocations, List.map_map, Function.comp_def] using hrecords

end Run

/-- The output of the commands never steers a run: whatever two launchers answer, a run without a
directory does the same with both if the answers to the commands of the plan have the same exit
codes. So it does with processes that come out in the same way, however they are started, their
output captured or passed through, and however long they take. -/
theorem Request.run_ignores_output {q : Request} (hd : q.outputDir = none)
    (hq : q.dryRun = false) :
    (∀ (launcher launcher' : Launcher) (answer answer' : Nat → List String → Completion),
      launcher.Answers answer → launcher'.Answers answer' →
      (∀ plan, Plan.resolve q.requested q.profile.selectors = .ok plan →
        ∀ i command, (Plan.commands q.profile.program plan)[i]? = some command →
          (answer i command).exitCode = (answer' i command).exitCode) →
      ∀ clock clock' files files',
        (q.run launcher clock files).DidTheSame (q.run launcher' clock' files')) ∧
    ∀ (s s' : ProcessSettings) (runs runs' : List ProcessRun),
      (∀ r ∈ runs, r.IsAnswered) → (∀ r ∈ runs', r.IsAnswered) →
      runs.map ProcessRun.outcome = runs'.map ProcessRun.outcome →
      ∀ clock clock' files files',
        (q.run (.processes s runs) clock files).DidTheSame
          (q.run (.processes s' runs') clock' files') := by
  constructor
  · intro launcher launcher' answer answer' hl hl' hcode
    exact Run.run_didTheSame hd hq hl hl' hcode
  · intro s s' runs runs' hr hr' houtcomes
    refine Run.run_didTheSame hd hq (Launcher.processes_answers hr)
      (Launcher.processes_answers hr') fun plan _ i command hi => ?_
    have hne : command ≠ [] := by
      obtain ⟨step, -, rfl⟩ := List.mem_map.mp (List.mem_of_getElem? hi)
      exact step.invocation.command_ne_nil q.profile.program
    rw [Launcher.processes_exitCode hr i hne, Launcher.processes_exitCode hr' i hne, houtcomes]

/-- A toolchain that is missing at the second call: only where output is captured the reasons say
so. Two sets of prepared answers differ in all but the exit codes. -/
theorem Request.run_ignores_output_capture :
    let q : Request := { names := [] }
    let missing := Utf8.encode "toolchain 'stable' is not installed"
    let runs : List ProcessRun :=
      [⟨.completed 0 [0x61] [], 0.5, 0.75⟩, ⟨.completed 1 [] missing, 0.5, 0.75⟩]
    let answers : List Completion := [⟨0, "built", "", 4, none⟩, ⟨-9, "", "killed", 6, none⟩]
    let answers' : List Completion := [⟨0, "", "", 0, none⟩, ⟨-9, "", "", 7, some "lost"⟩]
    let run (launcher : Launcher) := q.run launcher (fun _ => 0) .empty
    q.outputDir = none ∧ q.dryRun = false ∧ (∀ r ∈ runs, r.IsAnswered) ∧
      (run (.processes { capture := true } runs)).DidTheSame
        (run (.processes { capture := false } runs)) ∧
      (∀ i command, (Launcher.preparedAnswer answers i command).exitCode =
        (Launcher.preparedAnswer answers' i command).exitCode) ∧
      (run (.prepared answers)).DidTheSame (run (.prepared answers')) := by
  intro q missing runs answers answers' run
  have hr : ∀ r ∈ runs, r.IsAnswered := by
    have hanswered : ∀ code out err,
        (ProcessRun.mk (.completed code out err) 0.5 0.75).IsAnswered := fun code out err =>
      ⟨⟨250, ProcessRun.durationMs_quarter _⟩, fun message h => by contradiction⟩
    simp [runs, hanswered]
  have hcode : ∀ i command, (Launcher.preparedAnswer answers i command).exitCode =
      (Launcher.preparedAnswer answers' i command).exitCode := by
    rintro (_ | _ | i) command <;> rfl
  obtain ⟨hanswers, hprocesses⟩ := Request.run_ignores_output (q := q) (by rfl) (by rfl)
  refine ⟨by rfl, by rfl, hr, hprocesses _ _ runs runs hr hr rfl _ _ _ _, hcode, ?_⟩
  exact hanswers _ _ _ _ (Launcher.prepared_answers _) (Launcher.prepared_answers _)
    (fun _ _ i command _ => hcode i command) _ _ _ _

end DualToolchain
