import DualToolchain.Proofs.Plan.Leaves
import DualToolchain.Proofs.Run.Account
import DualToolchain.Proofs.RunDirectory

/-! Runs of one plan by different names. A run reads the requested names only for its plan, its
receipt and its log, so requests with the same plan launch the same commands, leave the same logs
and end alike. Among them are a composite and its steps, and a request with and without a name whose
leaves all come earlier. -/

namespace DualToolchain

open FileTree RunDirectory

def Request.renamed (q : Request) (names : List String) : Request :=
  { q with names := names }

theorem Request.requested_renamed (q : Request) {names : List String} (h : names ≠ []) :
    (q.renamed names).requested = names :=
  if_neg h

def Receipt.withoutRequested (r : Receipt) : Receipt :=
  { r with requested := [] }

namespace Run

variable {q : Request} {launcher : Launcher} {clock : Clock} {files : FileTree}

/-! ### Steps -/

/-- A step does not look at the requested names. -/
theorem step_renamed (q : Request) (names : List String) (launcher : Launcher) (st : RunState)
    (s : Step) : step (q.renamed names) launcher st s = step q launcher st s := rfl

theorem steps_renamed (q : Request) (names : List String) (launcher : Launcher) (st : RunState)
    (ss : List Step) : steps (q.renamed names) launcher st ss = steps q launcher st ss := by
  induction ss generalizing st with
  | nil => rfl
  | cons s rest ih =>
    rw [steps, steps, step_renamed]
    split
    · exact ih _
    · rfl

/-- The state with a trace before its own. -/
def behind (t : Trace) (st : RunState) : RunState :=
  { st with trace := t ++ st.trace }

/-- What was seen before a step has no part in it. -/
theorem step_behind (q : Request) (launcher : Launcher) (t : Trace) (st : RunState) (s : Step) :
    step q launcher (behind t st) s =
      (behind t (step q launcher st s).1, (step q launcher st s).2) := by
  unfold step behind
  by_cases hq : q.dryRun
  · simp [hq]
  · simp only [hq, Bool.false_eq_true, ↓reduceIte]
    split
    · simp
    · unfold conclude
      simp only
      split
      · simp
      · split_ifs <;> simp

theorem steps_behind (q : Request) (launcher : Launcher) (t : Trace) (ss : List Step)
    (st : RunState) :
    steps q launcher (behind t st) ss =
      (behind t (steps q launcher st ss).1, (steps q launcher st ss).2) := by
  induction ss generalizing st with
  | nil => rfl
  | cons s rest ih =>
    rw [steps, steps, step_behind]
    generalize step q launcher st s = res
    obtain ⟨st', _ | stop⟩ := res
    · exact ih st'
    · rfl

/-! ### The end of a run -/

/-- Two reports that tell the same but for the requested names: what was launched is the same, both
fail in the same way or give receipts that agree in all other fields, and the files agree but for
the one with the receipt. -/
structure Report.SameButRequested (report report' : Report) (outputDir : Option Path) : Prop where
  launches_eq : report.trace.launches = report'.trace.launches
  outcome_eq : report.outcome.map Receipt.withoutRequested =
    report'.outcome.map Receipt.withoutRequested
  entryAt_eq : ∀ l, report.files.entryAt l = report'.files.entryAt l ∨
    report.outcome.isOk = true ∧ ∃ dir, outputDir = some dir ∧
      report.files.locate (dir.child receiptName) = .ok l ∧
      report'.files.locate (dir.child receiptName) = .ok l

theorem finish_sameButRequested (q : Request) (names : List String) (clock : Clock)
    {st st' : RunState} (hfiles : st.files = st'.files) (hrecords : st.records = st'.records)
    (hlaunches : st.trace.launches = st'.trace.launches) (status : Status)
    (reasons : List Reason) (exitCode : Int) :
    (finish q clock st status reasons exitCode).SameButRequested
      (finish (q.renamed names) clock st' status reasons exitCode) q.outputDir := by
  have hlaunched : (finish q clock st status reasons exitCode).trace.launches =
      (finish (q.renamed names) clock st' status reasons exitCode).trace.launches := by
    rw [finish_launches, finish_launches, hlaunches]
  have hreceipt : (receipt q clock st.records status reasons exitCode).withoutRequested =
      (receipt (q.renamed names) clock st'.records status reasons exitCode).withoutRequested := by
    rw [hrecords]
    rfl
  cases hd : q.outputDir with
  | none =>
    have hd' : (q.renamed names).outputDir = none := hd
    refine ⟨hlaunched, ?_, fun l => .inl ?_⟩
    · simp only [finish, hd, hd']
      exact congrArg Except.ok hreceipt
    · simp only [finish, hd, hd', hfiles]
  | some dir =>
    have hd' : (q.renamed names).outputDir = some dir := hd
    obtain ⟨hresult, hentry⟩ := writeReceipt_cases st'.files dir
      (receipt q clock st.records status reasons exitCode)
      (receipt (q.renamed names) clock st'.records status reasons exitCode)
    refine ⟨hlaunched, ?_, fun l => ?_⟩
    · rw [finish_outcome_eq hd, finish_outcome_eq hd', hfiles, hresult]
      cases (writeReceipt st'.files dir
        (receipt (q.renamed names) clock st'.records status reasons exitCode)).result with
      | error fault => rfl
      | ok path => exact congrArg Except.ok hreceipt
    · rw [finish_files hd, finish_files hd', finish_outcome_eq hd, hfiles]
      rcases hentry l with heq | ⟨⟨path, hok⟩, hl, hl'⟩
      · exact .inl heq
      · refine .inr ⟨?_, dir, rfl, hl, hl'⟩
        rw [hok]
        rfl

/-! ### The whole run -/

/-- Requests with the same plan have the same run, but for their names. -/
theorem run_sameButRequested {names : List String} (hplan :
      Plan.resolve q.requested q.profile.selectors =
        Plan.resolve (q.renamed names).requested q.profile.selectors)
    (launcher : Launcher) (clock : Clock) (files : FileTree) :
    (q.run launcher clock files).SameButRequested
      ((q.renamed names).run launcher clock files) q.outputDir := by
  have hprofile : (q.renamed names).profile = q.profile := rfl
  unfold Request.run
  rw [hprofile, ← hplan]
  cases hp : Plan.resolve q.requested q.profile.selectors with
  | error e => exact finish_sameButRequested q names clock rfl rfl rfl ..
  | ok plan =>
    -- Both runs take their steps from one state, each behind its own line on the plan.
    have hsteps := fun line : Event =>
      steps_behind q launcher [line] (Plan.steps plan) ⟨files, [], []⟩
    simp only [behind, List.append_nil] at hsteps
    simp only [steps_renamed, hsteps]
    generalize steps q launcher ⟨files, [], []⟩ (Plan.steps plan) = taken
    obtain ⟨st, stop⟩ := taken
    rcases stop with _ | ⟨reasons, code⟩ | fault
    all_goals simp only
    · apply finish_sameButRequested q names clock <;> rfl
    · apply finish_sameButRequested q names clock <;> rfl
    · exact ⟨rfl, rfl, fun l => .inl rfl⟩

end Run

/-- A run of a composite, wherever it is among the requested names, is the run of its steps in its
place. So is a run with a name, in its place or at the end, the run without it, if all of its leaves
are those of earlier names. -/
theorem Request.run_composite_as_steps (q : Request) (launcher : Launcher) (clock : Clock)
    (files : FileTree) :
    let SameAs (names : List String) : Prop := (q.run launcher clock files).SameButRequested
      ((q.renamed names).run launcher clock files) q.outputDir
    (∀ before after (c : Composite), q.requested = before ++ c.name :: after →
      SameAs (before ++ c.steps.map Leaf.name ++ after)) ∧
    (∀ before after (t : Target), q.requested = before ++ t.name :: after →
      (∀ l ∈ t.leaves, Plan.Expands before l) → SameAs (before ++ after)) ∧
    ∀ t : Target, (∀ l ∈ t.leaves, Plan.Expands q.requested l) →
      SameAs (q.requested ++ [t.name]) := by
  refine ⟨fun before after c hreq => ?_, fun before after t hreq hleaves => ?_,
    fun t hleaves => ?_⟩
  · refine Run.run_sameButRequested ?_ launcher clock files
    rw [requested_renamed q (by simp [c.steps_ne_nil]), hreq]
    exact Plan.resolve_composite before after q.profile.selectors c
  · refine Run.run_sameButRequested ?_ launcher clock files
    rw [requested_renamed q (by simp [Plan.ne_nil_of_expands hleaves]), hreq]
    exact Plan.resolve_of_expands hleaves after q.profile.selectors
  · refine Run.run_sameButRequested ?_ launcher clock files
    have hadd := Plan.resolve_of_expands hleaves [] q.profile.selectors
    rw [List.append_nil] at hadd
    rw [requested_renamed q (by simp), hadd]

/-- The steps of a composite are among other names, one of them requested before; the last name is
there already, and so are the leaves of another composite. The run fails at its third command. -/
theorem Request.run_composite_as_steps_third :
    let q : Request := { names := ["test", "all", "build"], outputDir := some (.ofString "out") }
    let launcher := Launcher.prepared [⟨0, "ok", "", 4, none⟩, ⟨0, "", "", 5, none⟩,
      ⟨-9, "", "killed", 6, none⟩]
    let run (names : List String) := (q.renamed names).run launcher (fun _ => 0) .empty
    let report := q.run launcher (fun _ => 0) .empty
    q.requested = ["test"] ++ Composite.all.name :: ["build"] ∧
      q.requested = ["test", "all"] ++ (Target.leaf .build).name :: [] ∧
      (∀ l ∈ (Target.leaf .build).leaves, Plan.Expands ["test", "all"] l) ∧
      (∀ l ∈ (Target.composite .all).leaves, Plan.Expands q.requested l) ∧
      report.outcome.map (·.exitCode) = .ok 1 ∧ report.trace.launches.length = 3 ∧
      report.SameButRequested (run ["test", "build", "test", "build"]) q.outputDir ∧
      report.SameButRequested (run ["test", "all"]) q.outputDir ∧
      report.SameButRequested (run ["test", "all", "build", "all"]) q.outputDir := by
  intro q launcher run report
  have hbuild : ∀ l ∈ (Target.leaf .build).leaves, Plan.Expands ["test", "all"] l := by
    intro l hl
    obtain rfl := List.mem_singleton.mp hl
    exact ⟨"all", by simp, .composite .all, rfl, by decide⟩
  have hall : ∀ l ∈ (Target.composite .all).leaves, Plan.Expands q.requested l :=
    fun l hl => ⟨"all", by simp [q, requested], .composite .all, rfl, hl⟩
  obtain ⟨hsteps, hdrop, hadd⟩ := Request.run_composite_as_steps q launcher (fun _ => 0) .empty
  refine ⟨rfl, rfl, hbuild, hall, by decide +kernel, by decide +kernel, ?_, ?_, ?_⟩
  · exact hsteps ["test"] ["build"] .all rfl
  · exact hdrop ["test", "all"] [] (.leaf .build) rfl hbuild
  · exact hadd (.composite .all) hall

end DualToolchain
