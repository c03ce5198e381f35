import DualToolchain.Proofs.Launcher
import DualToolchain.Proofs.Run.Account

/-! What a run hands over to be started comes from its launcher: what holds of everything that the
launcher starts holds of all launches of the run, however it ends. -/

namespace DualToolchain

/-- Each command is handed over once, with the settings of the processes. -/
theorem ProcessSettings.run_launches (s : ProcessSettings) (command : List String)
    (r : ProcessRun) : (s.run command r).events.launches = [s.launch command] := by
  unfold ProcessSettings.run
  split
  · split
    · rfl
    · cases command <;> rfl
  · unfold ProcessSettings.failure
    split
    · rfl
    · simp only
      split <;> rfl
  · rfl

namespace Run

variable {q : Request} {launcher : Launcher} {P : Launch → Prop}

theorem conclude_launches (q : Request) (st : RunState) (s : Step) (c : Completion) :
    (conclude q st s c).1.trace.launches = st.trace.launches := by
  unfold conclude
  simp only
  split
  · rfl
  · split_ifs
    · rfl
    · rw [Trace.launches_append]
      exact List.append_nil _

theorem step_launches (h : ∀ i command, ∀ l ∈ (launcher i command).events.launches, P l)
    (st : RunState) (s : Step) (hst : ∀ l ∈ st.trace.launches, P l) :
    ∀ l ∈ (step q launcher st s).1.trace.launches, P l := by
  have hlog : Trace.launches (st.trace ++ [log .info (commandMessage q.profile.program s)]) =
      st.trace.launches := by
    rw [Trace.launches_append]
    exact List.append_nil _
  unfold step
  simp only
  split_ifs
  · rwa [hlog]
  · have hlaunched : ∀ l ∈ Trace.launches (st.trace ++
        [log .info (commandMessage q.profile.program s)] ++
          (launcher st.records.length (s.invocation.command q.profile.program)).events), P l := by
      rw [Trace.launches_append, hlog]
      exact List.forall_mem_append.mpr ⟨hst, h _ _⟩
    split
    · exact hlaunched
    · rwa [conclude_launches]

theorem run_launches (h : ∀ i command, ∀ l ∈ (launcher i command).events.launches, P l)
    (clock : Clock) (files : FileTree) :
    ∀ l ∈ (q.run launcher clock files).trace.launches, P l := by
  unfold Request.run
  split
  · rw [finish_launches]
    exact List.forall_mem_nil _
  · rename_i plan _
    have hbegin : ∀ l ∈ (RunState.mk files [log .debug (planMessage q plan)] []).trace.launches,
        P l := List.forall_mem_nil _
    have hsteps := steps_invariant (P := fun st => ∀ l ∈ st.trace.launches, P l)
      (fun st s hst => step_launches (q := q) h st s hst) (Plan.steps plan) hbegin
    simp only
    split
    · rename_i heq
      rw [heq] at hsteps
      rwa [finish_launches]
    · rename_i heq
      rw [heq] at hsteps
      rwa [finish_launches]
    · rename_i heq
      rwa [heq] at hsteps

end Run

end DualToolchain
