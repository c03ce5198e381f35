import DualToolchain.Proofs.Plan
import DualToolchain.Proofs.Run.Account

/-! Runs are fail-fast: of the planned commands, those through the first that fails are launched, in
the order of the plan. -/

namespace DualToolchain.Run

def fails (answer : Nat → List String → Completion) (c : List String × Nat) : Bool :=
  (answer c.2 c.1).exitCode != 0

/-- The commands through the first whose answer is a failure; all of them if none fails. -/
def throughFailure (answer : Nat → List String → Completion) (commands : List (List String)) :
    List (List String) :=
  commands.take (commands.zipIdx.findIdx (fails answer) + 1)

/-- The commands of the calls from position `i` on. -/
theorem calls_map_command (program : String) (answer : Nat → List String → Completion)
    (ss : List Step) (i : Nat) :
    let commands := ss.map (·.invocation.command program)
    (calls program answer i ss).map (·.command program) =
      commands.take ((commands.zipIdx i).findIdx (fails answer) + 1) := by
  induction ss generalizing i with
  | nil => rfl
  | cons s rest ih =>
    simp only [calls, List.map_cons, List.zipIdx_cons, List.findIdx_cons, List.take_succ_cons]
    by_cases hc : (answer i (s.invocation.command program)).exitCode = 0
    · simp only [fails, hc, ↓reduceIte, bne_self_eq_false, cond_false, ih]
      rfl
    · have hf : fails answer (s.invocation.command program, i) = true := by simp [fails, hc]
      simp only [hf, hc, ↓reduceIte, cond_true, List.map_nil, List.take_zero]
      rfl

theorem calls_map_command_zero (program : String) (answer : Nat → List String → Completion)
    (plan : List Phase) :
    (calls program answer 0 (Plan.steps plan)).map (·.command program) =
      throughFailure answer (Plan.commands program plan) :=
  calls_map_command program answer (Plan.steps plan) 0

/-- A run that gives a receipt has launched nothing if a requested name is unknown. Otherwise it
has launched the commands of its plan, for each leaf the pinned and then the stable one, through
the first that failed. -/
theorem commands_eq_throughFailure {q : Request} {launcher : Launcher}
    {answer : Nat → List String → Completion} {clock : Clock} {files : FileTree} {r : Receipt}
    (hq : q.dryRun = false) (hl : launcher.Answers answer)
    (hr : (q.run launcher clock files).outcome = .ok r) :
    ((∃ name ∈ q.requested, Target.IsUnknown name) →
      (q.run launcher clock files).trace.commands = []) ∧
    ((∀ name ∈ q.requested, ¬ Target.IsUnknown name) →
      ∃ plan, Plan.resolve q.requested q.profile.selectors = .ok plan ∧
        (∀ p ∈ plan, p.invocations =
          [p.leaf.invocation q.profile.pinned, p.leaf.invocation q.profile.stable]) ∧
        (q.run launcher clock files).trace.commands =
          throughFailure answer (Plan.commands q.profile.program plan)) := by
  constructor
  · rintro ⟨name, hm, hu⟩
    obtain ⟨e, -, hc, -⟩ | ⟨plan, hp, -⟩ := run_cases hr
    · exact hc
    · exact absurd hu ((Plan.exists_resolve_eq_ok_iff _ _).mp ⟨plan, hp⟩ name hm)
  · intro hk
    obtain ⟨plan, hp⟩ := (Plan.exists_resolve_eq_ok_iff _ q.profile.selectors).mpr hk
    refine ⟨plan, hp, Plan.invocations_of_resolve hp, ?_⟩
    rw [(run_account hq hl hr hp).1, calls_map_command_zero]

/-- The third command fails: it is the first of the second leaf, and the last that is launched. -/
theorem commands_eq_throughFailure_third :
    let q : Request := { names := ["test", "all", "test"] }
    let answers : List Completion :=
      [⟨0, "", "", 4, none⟩, ⟨0, "ok", "", 5, none⟩, ⟨-9, "", "", 6, none⟩]
    let report := q.run (.prepared answers) (fun _ => 0) .empty
    q.dryRun = false ∧ (Launcher.prepared answers).Answers (Launcher.preparedAnswer answers) ∧
      (∃ r, report.outcome = .ok r) ∧
      report.trace.commands =
        [["cargo", "+1.31.0", "test", "--all", "--", "--quiet"],
          ["cargo", "+stable", "test", "--all", "--", "--quiet"],
          ["cargo", "+1.31.0", "build"]] := by
  intro q answers report
  have hl := Launcher.prepared_answers answers
  have hr : ∃ r, report.outcome = .ok r := ⟨_, rfl⟩
  refine ⟨rfl, hl, hr, ?_⟩
  obtain ⟨r, hr⟩ := hr
  obtain ⟨plan, hp, -, hc⟩ := (commands_eq_throughFailure rfl hl hr).2 (by decide)
  obtain rfl := Except.ok.inj hp
  rw [hc]
  rfl

end DualToolchain.Run
