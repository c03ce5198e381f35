import DualToolchain.Run
import Mathlib.Tactic.Common

/-! The account of a run. What a launcher answers gives a list of calls, the steps through the first
that fails; the records, the trace and the end of a run that meets no fault are read off this list,
and each of its calls was answered. A dry run has an account of its own, without calls. -/

namespace DualToolchain

/-- A launcher that starts the command of every call, once, and gives a completion for it. -/
structure Launcher.Answers (launcher : Launcher) (answer : Nat → List String → Completion) :
    Prop where
  answer_eq : ∀ i command, command ≠ [] → (launcher i command).answer = .ok (answer i command)
  commands_eq : ∀ i command, command ≠ [] → (launcher i command).events.commands = [command]

def Launcher.completion (launcher : Launcher) (i : Nat) (command : List String) : Completion :=
  match (launcher i command).answer with
  | .ok c => c
  | .error _ => ⟨0, "", "", 0, none⟩

theorem Launcher.completion_of_ok {launcher : Launcher} {i : Nat} {command : List String}
    {c : Completion} (h : (launcher i command).answer = .ok c) :
    launcher.completion i command = c := by
  rw [completion, h]

def Launcher.preparedAnswer (answers : List Completion) (i : Nat) (_ : List String) : Completion :=
  answers[i]?.getD ⟨0, "", "", 0, none⟩

theorem Launcher.prepared_answers (answers : List Completion) :
    (Launcher.prepared answers).Answers (Launcher.preparedAnswer answers) :=
  ⟨fun _ _ _ => rfl, fun _ _ _ => rfl⟩

theorem Invocation.command_ne_nil (inv : Invocation) (program : String) :
    inv.command program ≠ [] := by
  simp [Invocation.command]

/-! ### Verdicts -/

namespace Completion

theorem judge_status_eq_success_iff (c : Completion) :
    c.judge.status = .success ↔ c.exitCode = 0 := by
  unfold judge
  split_ifs <;> simp [*]

theorem judge_status_of_ne_zero {c : Completion} (h : c.exitCode ≠ 0) :
    c.judge.status = .failed := by
  rw [judge, if_neg h]
  split_ifs <;> rfl

theorem judge_reasons_of_ne_zero {c : Completion} (h : c.exitCode ≠ 0) :
    c.judge.reasons = [.toolchainNotFound] ∨ c.judge.reasons = [.invocationFailed] := by
  rw [judge, if_neg h]
  split_ifs
  · exact .inl rfl
  · exact .inr rfl

theorem runExitCode_pos (c : Completion) : 0 < c.runExitCode := by
  unfold runExitCode
  split_ifs with h
  · exact h
  · exact Int.one_pos

/-- How a run stops at this completion: not at all if it is a success. -/
def stop? (c : Completion) : Option Stop :=
  if c.exitCode = 0 then none else some (.failed c.judge.reasons c.runExitCode)

theorem stop?_eq_none_iff (c : Completion) : c.stop? = none ↔ c.exitCode = 0 := by
  simp [stop?]

end Completion

namespace Run

/-! ### Calls -/

/-- A step that was launched, the position of its call and the answer. -/
structure Call where
  index : Nat
  step : Step
  completion : Completion

namespace Call

def command (program : String) (c : Call) : List String :=
  c.step.invocation.command program

/-- The record of a call, its streams left out. -/
def record (program : String) (c : Call) : InvocationRecord :=
  settled (planned program c.index c.step) c.completion

/-- What is seen of a call: it is announced, launched, and reported if it fails. -/
def events (program : String) (launcher : Launcher) (c : Call) : Trace :=
  log .info (commandMessage program c.step) :: (launcher c.index (c.command program)).events ++
    if c.completion.exitCode = 0 then [] else [log .error (failureMessage c.step c.completion)]

end Call

/-- The calls from position `i` on: the steps through the first whose answer is a failure. -/
def calls (program : String) (answer : Nat → List String → Completion) :
    Nat → List Step → List Call
  | _, [] => []
  | i, s :: rest =>
    let c := answer i (s.invocation.command program)
    ⟨i, s, c⟩ :: if c.exitCode = 0 then calls program answer (i + 1) rest else []

theorem calls_congr {program : String} {answer answer' : Nat → List String → Completion}
    (ss : List Step) (i : Nat)
    (h : ∀ j command, (ss.map (·.invocation.command program))[j]? = some command →
      answer (i + j) command = answer' (i + j) command) :
    calls program answer i ss = calls program answer' i ss := by
  induction ss generalizing i with
  | nil => rfl
  | cons s rest ih =>
    have hfirst : answer i (s.invocation.command program) =
        answer' i (s.invocation.command program) := h 0 _ rfl
    have hrest := ih (i + 1) fun j command hj => by
      have hnext := h (j + 1) command hj
      have hi : i + 1 + j = i + (j + 1) := by omega
      rwa [hi]
    simp only [calls, hfirst, hrest]

theorem calls_completion {launcher : Launcher} {answer : Nat → List String → Completion}
    (hl : launcher.Answers answer) (program : String) (i : Nat) (ss : List Step) :
    calls program launcher.completion i ss = calls program answer i ss := by
  refine calls_congr ss i fun j command hj => ?_
  obtain ⟨s, -, rfl⟩ := List.mem_map.mp (List.mem_of_getElem? hj)
  exact Launcher.completion_of_ok
    (hl.answer_eq (i + j) _ (s.invocation.command_ne_nil program))

/-- How a run ends by its calls. Only the last of them can have failed. -/
def ending (cs : List Call) : Option Stop :=
  cs.getLast?.bind (·.completion.stop?)

theorem ending_cons (c : Call) (cs : List Call) (hc : c.completion.exitCode = 0) :
    ending (c :: cs) = ending cs := by
  cases cs with
  | nil => simp [ending, Completion.stop?, hc]
  | cons c' cs => simp [ending]

theorem ending_cases (cs : List Call) :
    ending cs = none ∨ ∃ c, cs.getLast? = some c ∧ c.completion.exitCode ≠ 0 ∧
      ending cs = some (.failed c.completion.judge.reasons c.completion.runExitCode) := by
  cases h : cs.getLast? with
  | none => exact .inl (by simp [ending, h])
  | some c =>
    by_cases hc : c.completion.exitCode = 0
    · exact .inl (by simp [ending, h, Completion.stop?, hc])
    · exact .inr ⟨c, rfl, hc, by simp [ending, h, Completion.stop?, hc]⟩

def withoutPaths (r : InvocationRecord) : InvocationRecord :=
  { r with stdoutPath := none, stderrPath := none }

theorem length_of_map_record {program : String} {records : List InvocationRecord} {cs : List Call}
    (h : records.map withoutPaths = cs.map (·.record program)) : records.length = cs.length := by
  simpa using congrArg List.length h

/-- A call is a step of the plan at its place, with the answer to its command. Each but the last
succeeded. -/
theorem getElem?_calls {program : String} {answer : Nat → List String → Completion}
    {ss : List Step} {i j : Nat} {c : Call} (h : (calls program answer i ss)[j]? = some c) :
    ss[j]? = some c.step ∧ c.index = i + j ∧ c.completion = answer (i + j) (c.command program) ∧
      (j + 1 < (calls program answer i ss).length → c.completion.exitCode = 0) := by
  induction ss generalizing i j with
  | nil => simp [calls] at h
  | cons s rest ih =>
    simp only [calls] at h ⊢
    cases j with
    | zero =>
      obtain rfl := Option.some.inj h
      refine ⟨rfl, rfl, rfl, fun hlt => ?_⟩
      by_contra hc
      simp [if_neg hc] at hlt
    | succ j =>
      rw [List.getElem?_cons_succ] at h
      split_ifs at h ⊢
      · obtain ⟨h1, h2, h3, h4⟩ := ih h
        have hi : i + 1 + j = i + (j + 1) := by omega
        rw [hi] at h2 h3
        exact ⟨h1, h2, h3, fun hlt => h4 (by simpa using hlt)⟩
      · simp at h

@[simp] theorem commands_log (level : LogLevel) (message : String) (t : Trace) :
    Trace.commands (log level message :: t) = t.commands := rfl

theorem Call.events_commands {launcher : Launcher} {answer : Nat → List String → Completion}
    (hl : launcher.Answers answer) (program : String) (c : Call) :
    (c.events program launcher).commands = [c.command program] := by
  have hc := hl.commands_eq c.index (c.command program)
    (Invocation.command_ne_nil c.step.invocation program)
  unfold Call.events
  split_ifs <;> simp [hc]

theorem commands_of_calls {launcher : Launcher} {answer : Nat → List String → Completion}
    (hl : launcher.Answers answer) (program : String) (cs : List Call) :
    Trace.commands (cs.flatMap (·.events program launcher)) = cs.map (·.command program) := by
  induction cs with
  | nil => rfl
  | cons c cs ih => simp [Call.events_commands hl, ih]

/-! ### One step -/

variable {q : Request} {launcher : Launcher} {answer : Nat → List String → Completion}

/-- A completion that meets no fault adds one record. A failure is told and stops the run. -/
theorem conclude_of_no_fault (st : RunState) (s : Step) (c : Completion)
    (h : ∀ f, (conclude q st s c).2 ≠ some (.fault f)) :
    (conclude q st s c).2 = c.stop? ∧
    (conclude q st s c).1.trace =
      st.trace ++ (if c.exitCode = 0 then [] else [log .error (failureMessage s c)]) ∧
    (conclude q st s c).1.records.map withoutPaths =
      st.records.map withoutPaths ++ [Call.record q.profile.program ⟨st.records.length, s, c⟩] := by
  unfold conclude at h ⊢
  cases hs : (saveStreams q st.files st.records.length s c).result with
  | error f => simp [hs] at h
  | ok paths =>
    simp only [hs]
    by_cases hc : c.exitCode = 0
    · simp [(Completion.judge_status_eq_success_iff c).mpr hc, hc, Completion.stop?, withoutPaths,
        Call.record, settled, planned]
    · simp [Completion.judge_status_of_ne_zero hc, hc, Completion.stop?, withoutPaths, Call.record,
        settled, planned]

def Call.IsAnswered (program : String) (launcher : Launcher) (c : Call) : Prop :=
  (launcher c.index (c.command program)).answer = .ok c.completion

/-- A step of a real run that meets no fault is one call, which was answered. -/
theorem step_answered (hq : q.dryRun = false) (st : RunState) (s : Step)
    (h : ∀ f, (step q launcher st s).2 ≠ some (.fault f)) :
    let c : Call := ⟨st.records.length, s,
      launcher.completion st.records.length (s.invocation.command q.profile.program)⟩
    c.IsAnswered q.profile.program launcher ∧
    (step q launcher st s).2 = c.completion.stop? ∧
    (step q launcher st s).1.trace = st.trace ++ c.events q.profile.program launcher ∧
    (step q launcher st s).1.records.map withoutPaths =
      st.records.map withoutPaths ++ [c.record q.profile.program] := by
  simp only [step, hq, Bool.false_eq_true, ↓reduceIte] at h ⊢
  cases ha : (launcher st.records.length (s.invocation.command q.profile.program)).answer with
  | error f => simp [ha] at h
  | ok c =>
    simp only [ha] at h ⊢
    obtain ⟨h2, h3, h4⟩ := conclude_of_no_fault _ s _ h
    rw [Launcher.completion_of_ok ha]
    refine ⟨ha, h2, ?_, h4⟩
    rw [h3]
    simp [Call.events, Call.command]

theorem step_of_no_fault (hq : q.dryRun = false) (hl : launcher.Answers answer) (st : RunState)
    (s : Step) (h : ∀ f, (step q launcher st s).2 ≠ some (.fault f)) :
    let c : Call :=
      ⟨st.records.length, s, answer st.records.length (s.invocation.command q.profile.program)⟩
    (step q launcher st s).2 = c.completion.stop? ∧
    (step q launcher st s).1.trace = st.trace ++ c.events q.profile.program launcher ∧
    (step q launcher st s).1.records.map withoutPaths =
      st.records.map withoutPaths ++ [c.record q.profile.program] := by
  have ha := hl.answer_eq st.records.length _ (s.invocation.command_ne_nil q.profile.program)
  have hc := step_answered hq st s h
  rw [Launcher.completion_of_ok ha] at hc
  exact hc.2

/-! ### All steps -/

/-- What each step keeps, all of them keep, wherever they stop. -/
theorem steps_invariant {P : RunState → Prop} (hstep : ∀ st s, P st → P (step q launcher st s).1)
    (ss : List Step) {st : RunState} (h : P st) : P (steps q launcher st ss).1 := by
  induction ss generalizing st with
  | nil => exact h
  | cons s rest ih =>
    have hs := hstep st s h
    rw [steps]
    split
    · rename_i hst
      rw [hst] at hs
      exact ih hs
    · rename_i hst
      rwa [hst] at hs

/-- What each step that meets no fault keeps, all of them keep if none meets one. -/
theorem steps_invariant_of_no_fault {P : RunState → Prop}
    (hstep : ∀ st s, (∀ f, (step q launcher st s).2 ≠ some (.fault f)) → P st →
      P (step q launcher st s).1)
    (ss : List Step) {st : RunState} (hf : ∀ f, (steps q launcher st ss).2 ≠ some (.fault f))
    (h : P st) : P (steps q launcher st ss).1 := by
  induction ss generalizing st with
  | nil => exact h
  | cons s rest ih =>
    have hs := hstep st s
    rw [steps] at hf ⊢
    generalize step q launcher st s = res at hs hf ⊢
    obtain ⟨st', _ | stop⟩ := res
    · exact ih hf (hs (by simp) h)
    · exact hs hf h

/-- The steps of a real run that meets no fault are its calls, and all of them were answered. -/
theorem steps_answered (hq : q.dryRun = false) (ss : List Step) (st : RunState)
    (h : ∀ f, (steps q launcher st ss).2 ≠ some (.fault f)) :
    let cs := calls q.profile.program launcher.completion st.records.length ss
    (∀ c ∈ cs, c.IsAnswered q.profile.program launcher) ∧
    (steps q launcher st ss).2 = ending cs ∧
    (steps q launcher st ss).1.trace =
      st.trace ++ cs.flatMap (·.events q.profile.program launcher) ∧
    (steps q launcher st ss).1.records.map withoutPaths =
      st.records.map withoutPaths ++ cs.map (·.record q.profile.program) := by
  induction ss generalizing st with
  | nil => simp [steps, calls, ending]
  | cons s rest ih =>
    have hstep := @step_answered q launcher hq st s
    rw [steps] at h ⊢
    generalize step q launcher st s = res at hstep h ⊢
    obtain ⟨st', stop⟩ := res
    cases stop with
    | some stop =>
      obtain ⟨ha, h1, h2, h3⟩ := hstep h
      have hc : (launcher.completion st.records.length
          (s.invocation.command q.profile.program)).exitCode ≠ 0 := by
        intro hc
        simp [Completion.stop?, hc] at h1
      simp only [calls, if_neg hc]
      exact ⟨by simpa using ha, h1, by simpa using h2, by simpa using h3⟩
    | none =>
      obtain ⟨ha, h1, h2, h3⟩ := hstep (by simp)
      have hc : (launcher.completion st.records.length
          (s.invocation.command q.profile.program)).exitCode = 0 :=
        (Completion.stop?_eq_none_iff _).mp h1.symm
      have hlen : st'.records.length = st.records.length + 1 := by
        simpa using congrArg List.length h3
      obtain ⟨i0, i1, i2, i3⟩ := ih st' h
      rw [hlen] at i0 i1 i2 i3
      simp only [calls, if_pos hc]
      exact ⟨List.forall_mem_cons.mpr ⟨ha, i0⟩, by rw [i1, ending_cons _ _ hc],
        by rw [i2, h2]; simp, by rw [i3, h3]; simp⟩

/-- The steps of a real run with a launcher that answers are the calls with its answers. -/
theorem steps_of_no_fault (hq : q.dryRun = false) (hl : launcher.Answers answer) (ss : List Step)
    (st : RunState) (h : ∀ f, (steps q launcher st ss).2 ≠ some (.fault f)) :
    let cs := calls q.profile.program answer st.records.length ss
    (steps q launcher st ss).2 = ending cs ∧
    (steps q launcher st ss).1.trace =
      st.trace ++ cs.flatMap (·.events q.profile.program launcher) ∧
    (steps q launcher st ss).1.records.map withoutPaths =
      st.records.map withoutPaths ++ cs.map (·.record q.profile.program) := by
  rw [← calls_completion hl]
  exact (steps_answered hq ss st h).2

/-- A dry run announces every step and records it as it was planned. -/
theorem steps_of_dryRun (hq : q.dryRun = true) (ss : List Step) (st : RunState) :
    steps q launcher st ss =
      ({ st with
          trace := st.trace ++ ss.map fun s => log .info (commandMessage q.profile.program s)
          records := st.records ++ (ss.zipIdx st.records.length).map fun (s, i) =>
            planned q.profile.program i s }, none) := by
  induction ss generalizing st with
  | nil => simp [steps]
  | cons s rest ih => simp [steps, step, hq, ih]

/-! ### The whole run -/

/-- Where a run with a plan starts: the plan is logged. -/
def start (q : Request) (plan : List Phase) (files : FileTree) : RunState :=
  ⟨files, [log .debug (planMessage q plan)], []⟩

/-- The receipt of a run whose steps ended without a fault. -/
def receiptOf (q : Request) (clock : Clock) (records : List InvocationRecord) :
    Option Stop → Receipt
  | some (.failed reasons exitCode) => receipt q clock records .failed reasons exitCode
  | _ => receipt q clock records .success [] 0

theorem finish_launches (q : Request) (clock : Clock) (st : RunState) (status : Status)
    (reasons : List Reason) (exitCode : Int) :
    (finish q clock st status reasons exitCode).trace.launches = st.trace.launches := by
  have hlog : Trace.launches (if status = .success then
      st.trace ++ [log .info (successMessage q st.records.length)] else st.trace) =
      st.trace.launches := by
    split_ifs
    · rw [Trace.launches_append]
      exact List.append_nil _
    · rfl
  unfold finish
  cases q.outputDir with
  | none => exact hlog
  | some dir =>
    simp only
    split
    · exact hlog
    · rw [Trace.launches_append, hlog]
      exact List.append_nil _

theorem finish_commands (q : Request) (clock : Clock) (st : RunState) (status : Status)
    (reasons : List Reason) (exitCode : Int) :
    (finish q clock st status reasons exitCode).trace.commands = st.trace.commands :=
  congrArg (List.map Launch.command) (finish_launches q clock st status reasons exitCode)

theorem finish_files {q : Request} {dir : Path} (hd : q.outputDir = some dir) (clock : Clock)
    (st : RunState) (status : Status) (reasons : List Reason) (exitCode : Int) :
    (finish q clock st status reasons exitCode).files =
      (RunDirectory.writeReceipt st.files dir
        (receipt q clock st.records status reasons exitCode)).files := by
  simp only [finish, hd]
  split <;> rfl

theorem finish_outcome_eq {q : Request} {dir : Path} (hd : q.outputDir = some dir) (clock : Clock)
    (st : RunState) (status : Status) (reasons : List Reason) (exitCode : Int) :
    let r := receipt q clock st.records status reasons exitCode
    (finish q clock st status reasons exitCode).outcome =
      ((RunDirectory.writeReceipt st.files dir r).result.mapError Fault.file).map fun _ => r := by
  simp only [finish, hd]
  split
  · rename_i hw
    rw [hw]
    rfl
  · rename_i hw
    rw [hw]
    rfl

theorem finish_outcome {q : Request} {clock : Clock} {st : RunState} {status : Status}
    {reasons : List Reason} {exitCode : Int} {r : Receipt}
    (h : (finish q clock st status reasons exitCode).outcome = .ok r) :
    r = receipt q clock st.records status reasons exitCode := by
  cases hd : q.outputDir with
  | none =>
    simp only [finish, hd, Except.ok.injEq] at h
    exact h.symm
  | some dir =>
    simp only [finish, hd] at h
    split at h
    · contradiction
    · exact (Except.ok.inj h).symm

section ReceiptOf

variable (q : Request) (clock : Clock) (records : List InvocationRecord) (stop : Option Stop)

@[simp] theorem receiptOf_invocations :
    (receiptOf q clock records stop).invocations = records := by
  unfold receiptOf
  split <;> rfl

@[simp] theorem receiptOf_requested :
    (receiptOf q clock records stop).requested = q.requested := by
  unfold receiptOf
  split <;> rfl

@[simp] theorem receiptOf_program :
    (receiptOf q clock records stop).program = q.profile.program := by
  unfold receiptOf
  split <;> rfl

end ReceiptOf

/-- A run that gives a receipt has stopped at an unknown name, or has taken the steps of its plan
without a fault. -/
theorem run_cases {clock : Clock} {files : FileTree} {r : Receipt}
    (h : (q.run launcher clock files).outcome = .ok r) :
    (∃ e, Plan.resolve q.requested q.profile.selectors = .error e ∧
      (q.run launcher clock files).trace.commands = [] ∧
      r = receipt q clock [] .failed [.unknownTarget] 2) ∨
    ∃ plan, Plan.resolve q.requested q.profile.selectors = .ok plan ∧
      let taken := steps q launcher (start q plan files) (Plan.steps plan)
      (∀ f, taken.2 ≠ some (.fault f)) ∧
      (q.run launcher clock files).trace.commands = taken.1.trace.commands ∧
      r = receiptOf q clock taken.1.records taken.2 := by
  unfold Request.run at h ⊢
  cases hp : Plan.resolve q.requested q.profile.selectors with
  | error e =>
    simp only [hp] at h
    exact .inl ⟨e, rfl, by simp [finish_commands], finish_outcome h⟩
  | ok plan =>
    refine .inr ⟨plan, rfl, ?_⟩
    simp only [hp, start] at h ⊢
    generalize steps q launcher ⟨files, _, []⟩ (Plan.steps plan) = taken at h ⊢
    obtain ⟨st, stop⟩ := taken
    match stop with
    | none => exact ⟨by simp, finish_commands .., finish_outcome h⟩
    | some (.failed reasons code) => exact ⟨by simp, finish_commands .., finish_outcome h⟩
    | some (.fault f) => simp at h

def verdictOf : Option Stop → Verdict
  | some (.failed reasons _) => ⟨.failed, reasons⟩
  | _ => ⟨.success, []⟩

def exitCodeOf : Option Stop → Int
  | some (.failed _ exitCode) => exitCode
  | _ => 0

theorem receiptOf_eq (q : Request) (clock : Clock) (records : List InvocationRecord)
    (stop : Option Stop) :
    receiptOf q clock records stop =
      receipt q clock records (verdictOf stop).status (verdictOf stop).reasons
        (exitCodeOf stop) := by
  match stop with
  | none => rfl
  | some (.failed reasons code) => rfl
  | some (.fault f) => rfl

theorem run_eq_finish_of_unknown (clock : Clock) {files : FileTree} {e : UnknownTarget}
    (he : Plan.resolve q.requested q.profile.selectors = .error e) :
    q.run launcher clock files =
      finish q clock ⟨files, [log .error e.message], []⟩ .failed [.unknownTarget] 2 := by
  rw [Request.run, he]

/-- A run whose steps meet no fault comes to its end with their verdict. -/
theorem run_eq_finish (clock : Clock) {files : FileTree} {plan : List Phase} {st : RunState}
    {stop : Option Stop} (hp : Plan.resolve q.requested q.profile.selectors = .ok plan)
    (hsteps : steps q launcher (start q plan files) (Plan.steps plan) = (st, stop))
    (hf : ∀ f, stop ≠ some (.fault f)) :
    q.run launcher clock files =
      finish q clock st (verdictOf stop).status (verdictOf stop).reasons (exitCodeOf stop) := by
  rw [start] at hsteps
  unfold Request.run
  simp only [hp, hsteps]
  match stop with
  | none => rfl
  | some (.failed reasons code) => rfl
  | some (.fault f) => exact absurd rfl (hf f)

/-- What a real run that gives a receipt launched and recorded: the calls of its plan. -/
theorem run_account {clock : Clock} {files : FileTree} {r : Receipt} (hq : q.dryRun = false)
    (hl : launcher.Answers answer) (h : (q.run launcher clock files).outcome = .ok r)
    {plan : List Phase} (hp : Plan.resolve q.requested q.profile.selectors = .ok plan) :
    let cs := calls q.profile.program answer 0 (Plan.steps plan)
    (q.run launcher clock files).trace.commands = cs.map (·.command q.profile.program) ∧
    r.invocations.map withoutPaths = cs.map (·.record q.profile.program) ∧
    r = receiptOf q clock r.invocations (ending cs) := by
  obtain ⟨e, he, -⟩ | ⟨plan', hp', hf, hc, hr⟩ := run_cases h
  · rw [hp] at he
    contradiction
  · obtain rfl : plan = plan' := by simpa [hp] using hp'
    obtain ⟨h1, h2, h3⟩ := steps_of_no_fault hq hl _ _ hf
    have hi : r.invocations =
        (steps q launcher (start q plan files) (Plan.steps plan)).1.records := by
      rw [hr, receiptOf_invocations]
    refine ⟨?_, ?_, ?_⟩
    · rw [hc, h2]
      simp [start, commands_of_calls hl]
    · rw [hi, h3]
      simp [start]
    · rw [hi]
      exact hr.trans (congrArg (receiptOf q clock _) h1)

end Run

end DualToolchain
