import DualToolchain.Proofs.Run.Logs
import DualToolchain.Proofs.Run.Unwritten
import DualToolchain.Proofs.RunDirectory.Own

/-! Runs with a new directory. Writing a receipt is meant to leave the run as it is. It does, except
for one thing: the selector is part of the name of a log, and a selector that no file name can hold
makes writing the log fail as soon as there is output, which ends the run without a receipt. -/

namespace DualToolchain

open FileTree RunDirectory

def Request.unwritten (q : Request) : Request :=
  { q with outputDir := none }

namespace Run

variable {q : Request} {dir : Path} {l : Location} {launcher : Launcher}
  {answer : Nat → List String → Completion}

/-! ### Steps in a directory of the run -/

/-- The streams of a call are saved if the selector is plain or there is nothing to save. -/
theorem saveStreams_isOwn (hd : q.outputDir = some dir) {files : FileTree} (h : IsOwn files dir l)
    (index : Nat) (s : Step) (c : Completion) :
    let call : Call := ⟨index, s, c⟩
    IsOwn (saveStreams q files index s c).files dir l ∧
    ((call.HasOutput → IsPlain s.invocation.selector) →
      ∃ paths, (saveStreams q files index s c).result = .ok paths) := by
  simp only [saveStreams, hd]
  split_ifs with hempty
  · exact ⟨h, fun _ => ⟨_, rfl⟩⟩
  · obtain ⟨hown, hok⟩ := h.writeLogs (isStem_stem index s) c.stdout c.stderr
    refine ⟨hown, fun hplain => hok ((isPlain_stem_iff index s).mpr (hplain ?_))⟩
    simpa only [Call.HasOutput, ne_eq, ← not_and_or] using hempty

theorem step_isOwn (hd : q.outputDir = some dir) (launcher : Launcher) {st : RunState}
    (h : IsOwn st.files dir l) (s : Step) : IsOwn (step q launcher st s).1.files dir l := by
  unfold step
  simp only
  split_ifs
  · exact h
  · split
    · exact h
    · rw [conclude_files]
      exact (saveStreams_isOwn hd h _ _ _).1

theorem steps_isOwn (hd : q.outputDir = some dir) (launcher : Launcher) (ss : List Step)
    {st : RunState} (h : IsOwn st.files dir l) : IsOwn (steps q launcher st ss).1.files dir l :=
  steps_invariant (P := fun st => IsOwn st.files dir l)
    (fun _ s h => step_isOwn hd launcher h s) ss h

theorem step_of_plain (hd : q.outputDir = some dir) (hq : q.dryRun = false)
    (hl : launcher.Answers answer) {st : RunState} (h : IsOwn st.files dir l) (s : Step)
    (hplain :
      let c : Call :=
        ⟨st.records.length, s, answer st.records.length (s.invocation.command q.profile.program)⟩
      c.HasOutput → IsPlain s.invocation.selector) (f : Fault) :
    (step q launcher st s).2 ≠ some (.fault f) := by
  obtain ⟨trace, hstep⟩ := step_of_answers hq hl st s
  rw [hstep]
  rcases conclude_cases q { st with trace := trace } s
    (answer st.records.length (s.invocation.command q.profile.program)) with
      ⟨fault, hfault, -⟩ | ⟨-, -, hok, -⟩
  · obtain ⟨paths, hpaths⟩ := (saveStreams_isOwn hd h _ _ _).2 hplain
    rw [hpaths] at hfault
    contradiction
  · exact hok f

theorem steps_of_plain (hd : q.outputDir = some dir) (hq : q.dryRun = false)
    (hl : launcher.Answers answer) (ss : List Step) {st : RunState} (h : IsOwn st.files dir l)
    (hplain : ∀ c ∈ calls q.profile.program answer st.records.length ss,
      c.HasOutput → IsPlain c.step.invocation.selector) (f : Fault) :
    (steps q launcher st ss).2 ≠ some (.fault f) := by
  induction ss generalizing st with
  | nil => simp [steps]
  | cons s rest ih =>
    have hfirst := List.forall_mem_cons.mp (by simpa only [calls] using hplain)
    have hstep := step_of_plain hd hq hl h s hfirst.1
    have hown := step_isOwn hd launcher h s
    obtain ⟨hlen, hcs⟩ := calls_of_step hq st s rest hstep
    simp only [calls_completion hl] at hcs
    rw [hcs] at hplain
    rw [steps]
    generalize step q launcher st s = res at hstep hown hlen hplain ⊢
    obtain ⟨st', stop⟩ := res
    cases stop with
    | some stop => exact hstep f
    | none =>
      refine ih hown ?_
      rw [hlen]
      exact (List.forall_mem_cons.mp hplain).2

/-- The steps of a real run meet no fault exactly if every call with output has a selector that a
file name can hold. -/
theorem steps_no_fault_iff (hd : q.outputDir = some dir) (hq : q.dryRun = false)
    (hl : launcher.Answers answer) (ss : List Step) {st : RunState} (h : IsOwn st.files dir l) :
    (∀ f, (steps q launcher st ss).2 ≠ some (.fault f)) ↔
      ∀ c ∈ calls q.profile.program answer st.records.length ss,
        c.HasOutput → IsPlain c.step.invocation.selector := by
  refine ⟨fun hf => ?_, steps_of_plain hd hq hl ss h⟩
  have hflat := (steps_isOwn hd launcher ss h).hasNoSubdirectories
  rw [← calls_completion hl]
  exact (steps_keepsStreams hd hq ss st hf hflat).2.2

/-! ### The end of a run -/

/-- What a run with a directory has in common with the same run without one: the commands and the
verdict are the same, and the receipt is in the directory. -/
structure Report.KeepsVerdict (report unwritten : Report) (dir : Path) : Prop where
  commands_eq : report.trace.commands = unwritten.trace.commands
  receipts : ∃ r r', report.outcome = .ok r ∧ unwritten.outcome = .ok r' ∧
    r.status = r'.status ∧ r.reasons = r'.reasons ∧ r.exitCode = r'.exitCode ∧
    ∀ now, readReceipt? report.files dir now = some r

/-- The end of a run in its own directory is the one without a directory. -/
theorem finish_keepsVerdict (hd : q.outputDir = some dir) (clock : Clock) {st st' : RunState}
    (h : IsOwn st.files dir l) (hcommands : st.trace.commands = st'.trace.commands)
    (status : Status) (reasons : List Reason) (exitCode : Int) :
    (finish q clock st status reasons exitCode).KeepsVerdict
      (finish q.unwritten clock st' status reasons exitCode) dir := by
  obtain ⟨path, hw⟩ := h.writeReceipt (receipt q clock st.records status reasons exitCode)
  have houtcome : (finish q clock st status reasons exitCode).outcome =
      .ok (receipt q clock st.records status reasons exitCode) := by
    simp only [finish, hd, hw]
  refine ⟨?_, _, _, houtcome, finish_of_unwritten rfl .., rfl, rfl, rfl, fun now => ?_⟩
  · rw [finish_commands, finish_commands, hcommands]
  · rw [(finish_of_ok hd houtcome).2]
    exact readReceipt?_writeReceipt hw now

theorem run_keepsVerdict_of_steps (hd : q.outputDir = some dir) (clock : Clock) {files : FileTree}
    {plan : List Phase} (hp : Plan.resolve q.requested q.profile.selectors = .ok plan)
    {st st' : RunState} {stop : Option Stop}
    (hsteps : steps q launcher (start q plan files) (Plan.steps plan) = (st, stop))
    (hsteps' : steps q.unwritten launcher (start q plan files) (Plan.steps plan) = (st', stop))
    (h : IsOwn st.files dir l) (hf : ∀ f, stop ≠ some (.fault f))
    (hcommands : st.trace.commands = st'.trace.commands) :
    (q.run launcher clock files).KeepsVerdict (q.unwritten.run launcher clock files) dir := by
  rw [run_eq_finish clock hp hsteps hf, run_eq_finish (q := q.unwritten) clock hp hsteps' hf]
  exact finish_keepsVerdict hd clock h hcommands ..

/-- Whatever is to be kept of the calls of a request can be kept under the name of a file. -/
def KeepsPlainNames (q : Request) (answer : Nat → List String → Completion) : Prop :=
  ∀ plan, Plan.resolve q.requested q.profile.selectors = .ok plan →
    ∀ c ∈ calls q.profile.program answer 0 (Plan.steps plan),
      c.HasOutput → IsPlain c.step.invocation.selector

/-- In a directory of its own, only names that no file can have keep a run from its receipt. -/
theorem keepsPlainNames_of_ok (hd : q.outputDir = some dir) (hl : launcher.Answers answer)
    {files : FileTree} (h : IsOwn files dir l) {clock : Clock} {r : Receipt}
    (hr : (q.run launcher clock files).outcome = .ok r) (hq : q.dryRun = false) :
    KeepsPlainNames q answer := by
  intro plan hp
  obtain ⟨e, he, -⟩ | ⟨plan', hp', hf, -⟩ := run_cases hr
  · rw [hp] at he
    contradiction
  · obtain rfl : plan = plan' := by simpa [hp] using hp'
    have hown : IsOwn (start q plan files).files dir l := h
    exact (steps_no_fault_iff hd hq hl _ hown).mp hf

theorem run_keepsVerdict (hd : q.outputDir = some dir) (hl : launcher.Answers answer)
    {files : FileTree} (h : IsOwn files dir l) (clock : Clock)
    (hplain : q.dryRun = false → KeepsPlainNames q answer) :
    (q.run launcher clock files).KeepsVerdict (q.unwritten.run launcher clock files) dir := by
  cases hp : Plan.resolve q.requested q.profile.selectors with
  | error e =>
    rw [run_eq_finish_of_unknown clock hp, run_eq_finish_of_unknown (q := q.unwritten) clock hp]
    have hown : IsOwn (RunState.mk files [log .error e.message] []).files dir l := h
    exact finish_keepsVerdict hd clock hown rfl ..
  | ok plan =>
    have hown : IsOwn (start q plan files).files dir l := h
    have hsteps := steps_isOwn hd launcher (Plan.steps plan) hown
    by_cases hq : q.dryRun = true
    · have hq' : q.unwritten.dryRun = true := hq
      rw [steps_of_dryRun hq] at hsteps
      exact run_keepsVerdict_of_steps hd clock hp (steps_of_dryRun hq _ _)
        (steps_of_dryRun hq' _ _) hsteps (by simp) rfl
    · have hq' : q.dryRun = false := by simpa using hq
      have hf := (steps_no_fault_iff hd hq' hl _ hown).mpr (hplain hq' plan hp)
      have hf' := steps_of_unwritten (q := q.unwritten) rfl hq' hl (Plan.steps plan)
        (start q plan files)
      -- Both runs have made the same calls, and it is these that stop them.
      obtain ⟨hstop, htrace, -⟩ := steps_of_no_fault hq' hl _ _ hf
      obtain ⟨hstop', htrace', -⟩ := steps_of_no_fault (q := q.unwritten) hq' hl _ _ hf'
      refine run_keepsVerdict_of_steps hd clock hp (Prod.ext rfl rfl)
        (Prod.ext rfl (hstop'.trans hstop.symm)) hsteps hf ?_
      rw [htrace, htrace']
      rfl

end Run

/-- A run with a new directory keeps the verdict of the run without one exactly if the path of the
directory and the selectors of all calls with output can be in the name of a file. -/
theorem Request.run_keepsVerdict_iff {q : Request} {dir : Path} {launcher : Launcher}
    {answer : Nat → List String → Completion} {files : FileTree} (hd : q.outputDir = some dir)
    (hl : launcher.Answers answer) (hc : files.IsClosed) (hv : files.IsVacant dir)
    (clock : Clock) :
    (q.run launcher clock files).KeepsVerdict (q.unwritten.run launcher clock files) dir ↔
      dir.hasNul = false ∧ (q.dryRun = false → Run.KeepsPlainNames q answer) := by
  constructor
  · rintro ⟨-, r, -, hr, -, -, -, -, hread⟩
    have hnul : dir.hasNul = false := by
      by_contra hnul
      have hnone := hread ""
      simp [readReceipt?, read?, lookup, hasNul_receipt, hnul] at hnone
    obtain ⟨l, hown⟩ := exists_isOwn hv hc hnul
    exact ⟨hnul, Run.keepsPlainNames_of_ok hd hl hown hr⟩
  · rintro ⟨hnul, hplain⟩
    obtain ⟨l, hown⟩ := exists_isOwn hv hc hnul
    exact Run.run_keepsVerdict hd hl hown clock hplain

/-- Selectors with dots, blanks and backslashes are plain, and one with a slash does no harm to
calls without output. -/
theorem Request.run_keepsVerdict_iff_plain :
    let dir := Path.ofString "out"
    let profile : Profile :=
      ⟨"cargo", "..\\ ..", "a/b", "build", by decide, by decide, by decide⟩
    let q : Request := { names := [], profile := profile, outputDir := some dir }
    let answers : List Completion := [⟨0, "built", "é", 4, none⟩, ⟨-9, "", "", 6, none⟩]
    let report := q.run (.prepared answers) (fun _ => 0) .empty
    q.outputDir = some dir ∧
      (Launcher.prepared answers).Answers (Launcher.preparedAnswer answers) ∧
      FileTree.empty.IsClosed ∧ FileTree.empty.IsVacant dir ∧
      report.KeepsVerdict (q.unwritten.run (.prepared answers) (fun _ => 0) .empty) dir := by
  intro dir profile q answers report
  have hl := Launcher.prepared_answers answers
  have hv : FileTree.empty.IsVacant dir := ⟨by decide, by decide⟩
  refine ⟨rfl, hl, isClosed_empty, hv, ?_⟩
  refine (Request.run_keepsVerdict_iff rfl hl isClosed_empty hv _).mpr ⟨by decide, ?_⟩
  intro _ plan hp
  obtain rfl := Except.ok.inj hp
  decide +kernel

/-- The first command fails and prints something, and the selector has a slash in it: without a
directory the run ends with the command's exit code; with one, it ends without a receipt, because
there is no directory for the log. -/
theorem Request.not_keepsVerdict_slash :
    let dir := Path.ofString "out"
    let profile : Profile :=
      ⟨"cargo", "nightly/x", "stable", Target.defaultName, by decide, by decide, by decide⟩
    let q : Request := { names := ["build"], profile := profile, outputDir := some dir }
    let launcher := Launcher.prepared [⟨1, "boom", "", 0, none⟩]
    let report := q.run launcher (fun _ => 0) .empty
    let unwritten := q.unwritten.run launcher (fun _ => 0) .empty
    FileTree.empty.IsClosed ∧ FileTree.empty.IsVacant dir ∧
      unwritten.outcome.map (·.exitCode) = .ok 1 ∧
      report.outcome =
        .error (.file (.refused .notFound (.ofString "out/logs/00.build.nightly/x.stdout"))) ∧
      readReceipt? report.files dir "now" = none ∧ ¬ report.KeepsVerdict unwritten dir := by
  intro dir profile q launcher report unwritten
  have houtcome : report.outcome =
      .error (.file (.refused .notFound (.ofString "out/logs/00.build.nightly/x.stdout"))) := by
    decide +kernel
  have hv : FileTree.empty.IsVacant dir := ⟨by decide, by decide⟩
  refine ⟨isClosed_empty, hv, by decide +kernel, houtcome, by decide +kernel, ?_⟩
  rintro ⟨-, r, -, hr, -⟩
  exact absurd (houtcome.symm.trans hr) (by simp)

end DualToolchain
