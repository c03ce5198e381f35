import DualToolchain.Proofs.Plan.Leaves
import DualToolchain.Proofs.Run.Account

/-! The build gates the tests. Whatever a run comes to, its launches are the first of its calls, and
each call but the last succeeded. So a leaf that the plan takes behind another one is launched only
when both commands of that one have succeeded. -/

namespace DualToolchain

theorem Leaf.eq_of_command_eq {l l' : Leaf} {program program' selector selector' : String}
    (h : (l.invocation selector).command program = (l'.invocation selector').command program') :
    l = l' := by
  cases l <;> cases l' <;>
    simp [Leaf.invocation, Leaf.operation, Leaf.configuration, Leaf.verbosity, Invocation.command,
      Invocation.scopeFlags, Invocation.modeFlags, Invocation.outputFlags, Operation.text] at h ⊢

namespace Run

variable {q : Request} {launcher : Launcher} {answer : Nat → List String → Completion}

/-! ### Launches, also of runs that meet a fault -/

theorem conclude_commands (q : Request) (st : RunState) (s : Step) (c : Completion) :
    (conclude q st s c).1.trace.commands = st.trace.commands := by
  unfold conclude
  simp only
  split
  · rfl
  · split_ifs
    · rfl
    · simp

/-- A step of a real run launches its command, whatever becomes of the answer. -/
theorem step_commands (hq : q.dryRun = false) (hl : launcher.Answers answer) (st : RunState)
    (s : Step) :
    (step q launcher st s).1.trace.commands =
      st.trace.commands ++ [s.invocation.command q.profile.program] := by
  have hne := s.invocation.command_ne_nil q.profile.program
  have ha := hl.answer_eq st.records.length _ hne
  have hc := hl.commands_eq st.records.length _ hne
  simp only [step, hq, Bool.false_eq_true, ↓reduceIte, ha, conclude_commands]
  simp [hc]

/-- What steps launch are the commands of their calls, from the first on. They end early only where
a fault ends the run. -/
theorem steps_commands (hq : q.dryRun = false) (hl : launcher.Answers answer) (ss : List Step)
    (st : RunState) :
    ∃ launched, (steps q launcher st ss).1.trace.commands = st.trace.commands ++ launched ∧
      launched <+: (calls q.profile.program answer st.records.length ss).map
        (·.command q.profile.program) := by
  induction ss generalizing st with
  | nil => exact ⟨[], by simp [steps], List.nil_prefix⟩
  | cons s rest ih =>
    have hcommands := step_commands hq hl st s
    have hstep := @step_of_no_fault q launcher answer hq hl st s
    rw [steps, calls]
    generalize step q launcher st s = res at hcommands hstep ⊢
    obtain ⟨st', stop⟩ := res
    cases stop with
    | some stop => exact ⟨_, hcommands, List.prefix_append [_] _⟩
    | none =>
      obtain ⟨hstop, -, hrecords⟩ := hstep (by simp)
      have hzero : (answer st.records.length
          (s.invocation.command q.profile.program)).exitCode = 0 :=
        (Completion.stop?_eq_none_iff _).mp hstop.symm
      have hlen : st'.records.length = st.records.length + 1 := by
        simpa using congrArg List.length hrecords
      obtain ⟨launched, heq, hprefix⟩ := ih st'
      rw [hlen] at hprefix
      refine ⟨s.invocation.command q.profile.program :: launched, ?_, ?_⟩
      · simp [heq, hcommands]
      · simp only [hzero, ↓reduceIte, List.map_cons]
        exact List.cons_prefix_cons.mpr ⟨rfl, hprefix⟩

/-- A real run launches nothing if it has no plan, and else the first of its calls. -/
theorem run_commands (hq : q.dryRun = false) (hl : launcher.Answers answer) (clock : Clock)
    (files : FileTree) :
    (q.run launcher clock files).trace.commands = [] ∨
    ∃ plan, Plan.resolve q.requested q.profile.selectors = .ok plan ∧
      (q.run launcher clock files).trace.commands <+:
        (calls q.profile.program answer 0 (Plan.steps plan)).map
          (·.command q.profile.program) := by
  cases hp : Plan.resolve q.requested q.profile.selectors with
  | error e =>
    rw [run_eq_finish_of_unknown clock hp, finish_commands]
    exact .inl rfl
  | ok plan =>
    obtain ⟨launched, heq, hprefix⟩ := steps_commands hq hl (Plan.steps plan) (start q plan files)
    have hstart : (start q plan files).trace.commands = [] := rfl
    rw [hstart, List.nil_append] at heq
    refine .inr ⟨plan, rfl, ?_⟩
    cases hsteps : steps q launcher (start q plan files) (Plan.steps plan) with
    | mk st stop =>
      rw [hsteps] at heq
      rw [← heq] at hprefix
      rcases stop with _ | ⟨reasons, code⟩ | fault
      · rwa [run_eq_finish clock hp hsteps (by simp), finish_commands]
      · rwa [run_eq_finish clock hp hsteps (by simp), finish_commands]
      · rw [start] at hsteps
        simp only [Request.run, hp, hsteps]
        exact hprefix

/-- When a command is launched, those of all earlier steps have been, and succeeded. -/
theorem succeeded_of_launched {program : String} {ss : List Step}
    {earlier later : List (List String)} {command : List String}
    (h : earlier ++ command :: later <+: (calls program answer 0 ss).map (·.command program)) :
    (∃ s, ss[earlier.length]? = some s ∧ s.invocation.command program = command) ∧
    ∀ (i : Nat) (s : Step), i < earlier.length → ss[i]? = some s →
      earlier[i]? = some (s.invocation.command program) ∧
      (answer i (s.invocation.command program)).exitCode = 0 := by
  obtain ⟨rest, heq⟩ := h
  have hlen := congrArg List.length heq
  simp only [List.length_append, List.length_cons, List.length_map] at hlen
  have hcall : ∀ i : Nat, ((calls program answer 0 ss)[i]?).map (Call.command program) =
      (earlier ++ command :: (later ++ rest))[i]? := by
    intro i
    rw [← List.getElem?_map, ← heq, List.append_assoc, List.cons_append]
  refine ⟨?_, fun i s hi hs => ?_⟩
  · have hlast := hcall earlier.length
    rw [List.getElem?_append_right (Nat.le_refl _), Nat.sub_self, List.getElem?_cons_zero,
      Option.map_eq_some_iff] at hlast
    obtain ⟨c, hc, hcommand⟩ := hlast
    exact ⟨c.step, (getElem?_calls hc).1, hcommand⟩
  · have hfirst := hcall i
    rw [List.getElem?_append_left hi, List.getElem?_eq_getElem hi, Option.map_eq_some_iff] at hfirst
    obtain ⟨c, hc, hcommand⟩ := hfirst
    obtain ⟨hstep, -, hanswer, hzero⟩ := getElem?_calls hc
    obtain rfl : s = c.step := Option.some.inj (hs.symm.trans hstep)
    rw [Nat.zero_add] at hanswer
    refine ⟨?_, ?_⟩
    · rw [List.getElem?_eq_getElem hi, ← hcommand]
      rfl
    · have hsucceeded := hzero (by omega)
      rwa [hanswer] at hsucceeded

/-- The leaf has been run: of what was launched its pinned command and, right behind it, its stable
one were answered with exit code 0. -/
def HasSucceeded (p : Profile) (answer : Nat → List String → Completion) (l : Leaf)
    (launched : List (List String)) : Prop :=
  let pinned := (l.invocation p.pinned).command p.program
  let stable := (l.invocation p.stable).command p.program
  ∃ i, launched[i]? = some pinned ∧ launched[i + 1]? = some stable ∧
    (answer i pinned).exitCode = 0 ∧ (answer (i + 1) stable).exitCode = 0

/-- In a plan that takes a leaf behind another one, the other has succeeded when it is launched. -/
theorem hasSucceeded_of_launched {p : Profile} {b t : Leaf} {early late : List Leaf}
    (hb : b ∈ early) (ht : t ∉ early) {earlier later : List (List String)} {selector : String}
    (h : earlier ++ (t.invocation selector).command p.program :: later <+:
      (calls p.program answer 0
        (Plan.steps ((early ++ t :: late).map (Plan.phase p.selectors)))).map
          (·.command p.program)) :
    HasSucceeded p answer b earlier := by
  obtain ⟨⟨s, hs, hcommand⟩, hsucceeded⟩ := succeeded_of_launched h
  rw [Plan.steps_map_phase, List.flatMap_append] at hs hsucceeded
  -- No step up to the end of the early leaves is one of `t`.
  have hlate : (early.flatMap fun l => p.selectors.map fun s => (⟨l, l.invocation s⟩ : Step)).length
      ≤ earlier.length := by
    by_contra hlt
    rw [List.getElem?_append_left (by omega)] at hs
    obtain ⟨l, hl, hmem⟩ := List.mem_flatMap.mp (List.mem_of_getElem? hs)
    obtain ⟨selector', -, rfl⟩ := List.mem_map.mp hmem
    obtain rfl := Leaf.eq_of_command_eq hcommand
    exact ht hl
  obtain ⟨front, back, rfl⟩ := List.append_of_mem hb
  rw [List.flatMap_append, List.flatMap_cons, List.append_assoc] at hsucceeded
  rw [List.flatMap_append, List.flatMap_cons] at hlate
  simp only [Profile.selectors, List.map_cons, List.map_nil, List.length_append, List.length_cons,
    List.length_nil] at hlate hsucceeded
  generalize (front.flatMap fun l => [(⟨l, l.invocation p.pinned⟩ : Step),
    ⟨l, l.invocation p.stable⟩]) = first at hlate hsucceeded
  obtain ⟨hpinned, hpinnedZero⟩ := hsucceeded first.length ⟨b, b.invocation p.pinned⟩ (by omega)
    (by simp)
  obtain ⟨hstable, hstableZero⟩ := hsucceeded (first.length + 1) ⟨b, b.invocation p.stable⟩
    (by omega) (by simp)
  exact ⟨_, hpinned, hstable, hpinnedZero, hstableZero⟩

end Run

/-- The first step of a composite gates the second one. If no name before the composite stands for
the second step, both commands of the first one have been launched and have succeeded whenever a
command of the second one is launched, whatever else is requested. -/
theorem Request.run_builds_first {q : Request} {launcher : Launcher}
    {answer : Nat → List String → Completion} {before after : List String} {c : Composite}
    {b t : Leaf} (hq : q.dryRun = false) (hl : launcher.Answers answer) (hc : c.steps = [b, t])
    (hreq : q.requested = before ++ c.name :: after) (hnew : ¬ Plan.Expands before t)
    (clock : Clock) (files : FileTree) :
    ∀ (earlier later : Trace) (l : Launch),
      (q.run launcher clock files).trace = earlier ++ .launch l :: later →
      ∀ selector, l.command = (t.invocation selector).command q.profile.program →
        Run.HasSucceeded q.profile answer b earlier.commands := by
  intro earlier later l htrace selector hcommand
  have hcommands : (q.run launcher clock files).trace.commands = earlier.commands ++
      (t.invocation selector).command q.profile.program :: Trace.commands later := by
    rw [htrace, Trace.commands_append, Trace.commands_launch, hcommand]
  rcases Run.run_commands hq hl clock files with hnone | ⟨plan, hplan, hprefix⟩
  · simp [hnone] at hcommands
  · rw [hreq] at hplan
    obtain ⟨early, late, rfl, hb, ht⟩ := Plan.exists_resolve_eq_of_steps hc hnew hplan
    rw [hcommands] at hprefix
    exact Run.hasSucceeded_of_launched hb ht hprefix

/-- The first step is asked for before the composite, and another leaf is run between it and the
second step. The last launch is the second one of that step, which fails. -/
theorem Request.run_builds_first_sixth :
    let q : Request := { names := ["build", "test-release", "all", "build"] }
    let answers : List Completion := [⟨0, "", "", 4, none⟩, ⟨0, "ok", "", 5, none⟩,
      ⟨0, "", "", 6, none⟩, ⟨0, "", "", 7, none⟩, ⟨0, "", "", 8, none⟩, ⟨-9, "", "", 9, none⟩]
    let trace := (q.run (.prepared answers) (fun _ => 0) .empty).trace
    let earlier : Trace := trace.take 12
    let launch : Launch :=
      ⟨["cargo", "+stable", "test", "--all", "--", "--quiet"], none, none, false⟩
    let answer := Launcher.preparedAnswer answers
    q.dryRun = false ∧ (Launcher.prepared answers).Answers answer ∧
      Composite.all.steps = [.build, .test] ∧
      q.requested = ["build", "test-release"] ++ Composite.all.name :: ["build"] ∧
      ¬ Plan.Expands ["build", "test-release"] .test ∧
      trace = earlier ++ .launch launch :: trace.drop 13 ∧
      launch.command = (Leaf.invocation .test "stable").command q.profile.program ∧
      Run.HasSucceeded q.profile answer .build earlier.commands := by
  intro q answers trace earlier launch answer
  have hl := Launcher.prepared_answers answers
  have hnew : ¬ Plan.Expands ["build", "test-release"] .test := by
    rintro ⟨name, hname, t, ht, hmem⟩
    obtain rfl | rfl : name = "build" ∨ name = "test-release" := by simpa using hname
    all_goals
      obtain rfl := Option.some.inj ht
      simp [Target.leaves] at hmem
  have htrace : trace = earlier ++ .launch launch :: trace.drop 13 := by decide +kernel
  have hcommand : launch.command = (Leaf.invocation .test "stable").command q.profile.program := rfl
  have hreq : q.requested = ["build", "test-release"] ++ Composite.all.name :: ["build"] := rfl
  refine ⟨rfl, hl, rfl, hreq, hnew, htrace, hcommand, ?_⟩
  exact Request.run_builds_first rfl hl rfl hreq hnew (fun _ => 0) .empty earlier (trace.drop 13)
    launch htrace "stable" hcommand

end DualToolchain
