import DualToolchain.Proofs.Run.Account
import DualToolchain.Proofs.RunDirectory

/-! The trace of a run that gives a receipt: the plan is told, the calls follow one another, and at
the end there are only lines of the log. -/

namespace DualToolchain.Run

variable {q : Request} {launcher : Launcher} {clock : Clock} {files : FileTree} {r : Receipt}

/-- What is seen of the end of a run: a success is told, and where the receipt is. -/
def closing (q : Request) (status : Status) (count : Nat) : Trace :=
  (if status = .success then [log .info (successMessage q count)] else []) ++
    match q.outputDir with
    | none => []
    | some dir =>
      [log .info ("Receipt saved: " ++ (dir.child RunDirectory.receiptName).toString)]

theorem exists_log_of_mem_closing {status : Status} {count : Nat} {e : Event}
    (h : e ∈ closing q status count) : ∃ record, e = .log record := by
  rcases List.mem_append.mp h with h | h
  · split_ifs at h
    · exact ⟨_, List.mem_singleton.mp h⟩
    · simp at h
  · split at h
    · simp at h
    · exact ⟨_, List.mem_singleton.mp h⟩

theorem finish_trace {st : RunState} {status : Status} {reasons : List Reason} {exitCode : Int}
    (h : (finish q clock st status reasons exitCode).outcome = .ok r) :
    (finish q clock st status reasons exitCode).trace =
      st.trace ++ closing q status st.records.length := by
  have hlog : (if status = .success then
      st.trace ++ [log .info (successMessage q st.records.length)] else st.trace) =
      st.trace ++ if status = .success then
        [log .info (successMessage q st.records.length)] else [] := by
    split_ifs <;> simp
  cases hd : q.outputDir with
  | none => simp [finish, closing, hd, hlog]
  | some dir =>
    simp only [finish, hd] at h ⊢
    cases hw : (RunDirectory.writeReceipt st.files dir
      (receipt q clock st.records status reasons exitCode)).result with
    | error fault => simp [hw] at h
    | ok path =>
      obtain rfl := (RunDirectory.writeReceipt_of_ok hw).1
      simp [closing, hd, hlog]

theorem run_trace_of_unknown {e : UnknownTarget}
    (he : Plan.resolve q.requested q.profile.selectors = .error e)
    (hr : (q.run launcher clock files).outcome = .ok r) :
    (q.run launcher clock files).trace = log .error e.message :: closing q .failed 0 := by
  rw [run_eq_finish_of_unknown clock he] at hr ⊢
  exact finish_trace hr

/-- Of a real run that gives a receipt its calls are seen, and all of them were answered. -/
theorem run_trace {plan : List Phase} (hq : q.dryRun = false)
    (hp : Plan.resolve q.requested q.profile.selectors = .ok plan)
    (hr : (q.run launcher clock files).outcome = .ok r) :
    let cs := calls q.profile.program launcher.completion 0 (Plan.steps plan)
    (∀ c ∈ cs, c.IsAnswered q.profile.program launcher) ∧
    (q.run launcher clock files).trace =
      log .debug (planMessage q plan) :: cs.flatMap (·.events q.profile.program launcher) ++
        closing q (verdictOf (ending cs)).status cs.length ∧
    r.invocations.map withoutPaths = cs.map (·.record q.profile.program) ∧
    r = receiptOf q clock r.invocations (ending cs) := by
  rcases run_cases hr with ⟨e, he, -⟩ | ⟨plan', hp', hf, -, hrr⟩
  · rw [hp] at he
    contradiction
  · obtain rfl : plan = plan' := by simpa [hp] using hp'
    obtain ⟨hanswered, hend, htrace, hrecords⟩ := steps_answered hq _ _ hf
    have hinv : r.invocations =
        (steps q launcher (start q plan files) (Plan.steps plan)).1.records := by
      rw [hrr, receiptOf_invocations]
    refine ⟨hanswered, ?_, ?_, ?_⟩
    · rw [run_eq_finish clock hp rfl hf] at hr ⊢
      have hlen := congrArg List.length hrecords
      simp only [List.length_map, List.length_append, start, List.length_nil, Nat.zero_add] at hlen
      rw [finish_trace hr, htrace, hend, start, hlen]
      rfl
    · rw [hinv, hrecords]
      rfl
    · rw [hinv]
      exact hrr.trans (congrArg (receiptOf q clock _) hend)

/-- A dry run with a plan is at its end when all is announced. -/
theorem run_of_dryRun (hq : q.dryRun = true) (launcher : Launcher) (clock : Clock)
    (files : FileTree) {plan : List Phase}
    (hp : Plan.resolve q.requested q.profile.selectors = .ok plan) :
    q.run launcher clock files = finish q clock
      { files := files
        trace := log .debug (planMessage q plan) ::
          (Plan.steps plan).map fun s => log .info (commandMessage q.profile.program s)
        records := (Plan.steps plan).zipIdx.map fun (s, i) => planned q.profile.program i s }
      .success [] 0 := by
  have hsteps := @steps_of_dryRun q launcher hq (Plan.steps plan) (start q plan files)
  rw [run_eq_finish clock hp hsteps (by simp)]
  rfl

theorem run_trace_of_dryRun {plan : List Phase} (hq : q.dryRun = true)
    (hp : Plan.resolve q.requested q.profile.selectors = .ok plan)
    (hr : (q.run launcher clock files).outcome = .ok r) :
    (q.run launcher clock files).trace =
      log .debug (planMessage q plan) ::
        (Plan.steps plan).map (fun s => log .info (commandMessage q.profile.program s)) ++
          closing q .success (Plan.steps plan).length ∧
    r = receipt q clock
      ((Plan.steps plan).zipIdx.map fun (s, i) => planned q.profile.program i s) .success [] 0 := by
  rw [run_of_dryRun hq launcher clock files hp] at hr ⊢
  refine ⟨?_, finish_outcome hr⟩
  rw [finish_trace hr]
  simp

end DualToolchain.Run
