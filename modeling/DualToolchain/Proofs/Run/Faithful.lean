import DualToolchain.Proofs.Plan
import DualToolchain.Proofs.Run.Account

/-! Receipts are faithful. Their records tell the steps of the plan in order and, in a real run,
what was launched and answered; the verdict on the whole is the one that the records lead to. -/

namespace DualToolchain

/-! ### Records -/

/-- The record at position `i` tells a step: its own texts name the invocation, and its command is
the one that calls the program. -/
structure InvocationRecord.Tells (r : InvocationRecord) (program : String) (i : Nat) (s : Step) :
    Prop where
  index_eq : r.index = i
  target_eq : r.target = s.leaf.name
  ofTexts_eq : Invocation.ofTexts r.selector r.operation r.configuration r.verbosity =
    .ok s.invocation
  command_eq : r.command = s.invocation.command program

structure InvocationRecord.TellsAnswer (r : InvocationRecord) (c : Completion) : Prop where
  exitCode_eq : r.exitCode = some c.exitCode
  durationMs_eq : r.durationMs = c.durationMs
  status_eq : r.status = c.judge.status.text
  reasons_eq : r.reasons = c.judge.reasons.map Reason.text

theorem Invocation.ofTexts_text (inv : Invocation) :
    Invocation.ofTexts inv.selector inv.operation.text inv.configuration.text inv.verbosity.text =
      .ok inv := by
  have ho : Operation.ofText? inv.operation.text = some inv.operation := by
    cases inv.operation <;> decide
  have hc : Configuration.ofText? inv.configuration.text = some inv.configuration := by
    cases inv.configuration <;> decide
  have hv : Verbosity.ofText? inv.verbosity.text = some inv.verbosity := by
    cases inv.verbosity <;> decide
  simp only [Invocation.ofTexts, ho, hc, hv]

namespace Run

theorem planned_tells (program : String) (i : Nat) (s : Step) :
    (planned program i s).Tells program i s :=
  ⟨rfl, rfl, s.invocation.ofTexts_text, rfl⟩

theorem record_tells (program : String) (c : Call) :
    (c.record program).Tells program c.index c.step :=
  ⟨rfl, rfl, c.step.invocation.ofTexts_text, rfl⟩

theorem record_tellsAnswer (program : String) (c : Call) :
    (c.record program).TellsAnswer c.completion :=
  ⟨rfl, rfl, rfl, rfl⟩

/-- The paths of the streams are no part of what a record tells. -/
theorem tells_of_withoutPaths {r : InvocationRecord} {program : String} {i : Nat} {s : Step}
    (h : (withoutPaths r).Tells program i s) : r.Tells program i s :=
  ⟨h.index_eq, h.target_eq, h.ofTexts_eq, h.command_eq⟩

theorem tellsAnswer_of_withoutPaths {r : InvocationRecord} {c : Completion}
    (h : (withoutPaths r).TellsAnswer c) : r.TellsAnswer c :=
  ⟨h.exitCode_eq, h.durationMs_eq, h.status_eq, h.reasons_eq⟩

end Run

/-- A record that tells an answer is a success exactly if the exit code is zero, and never
skipped. -/
theorem InvocationRecord.TellsAnswer.status_cases {r : InvocationRecord} {c : Completion}
    (h : r.TellsAnswer c) :
    (c.exitCode = 0 ∧ r.status = "SUCCESS") ∨ (c.exitCode ≠ 0 ∧ r.status = "FAILED") := by
  by_cases hc : c.exitCode = 0
  · exact .inl ⟨hc, by rw [h.status_eq, (c.judge_status_eq_success_iff).mpr hc]; rfl⟩
  · exact .inr ⟨hc, by rw [h.status_eq, Completion.judge_status_of_ne_zero hc]; rfl⟩

/-! ### Receipts -/

/-- What a receipt promises about its request, the answers to the calls and the commands that were
launched. -/
structure Receipt.IsFaithful (r : Receipt) (q : Request)
    (answer : Nat → List String → Completion) (launched : List (List String)) : Prop where
  requested_eq : r.requested = if q.names = [] then [q.profile.defaultTarget] else q.names
  /-- The records tell the plan, from its start on. -/
  records_tell : ∀ (i : Nat) (record : InvocationRecord), r.invocations[i]? = some record →
    ∃ plan s, Plan.resolve r.requested q.profile.selectors = .ok plan ∧
      (Plan.steps plan)[i]? = some s ∧ record.Tells r.program i s
  /-- In a real run there is one record for each launch. -/
  commands_eq : q.dryRun = false → r.commands = launched
  answers_tell : q.dryRun = false → ∀ (i : Nat) (record : InvocationRecord),
    r.invocations[i]? = some record →
      record.TellsAnswer (answer i record.command) ∧ record.status ≠ "SKIPPED" ∧
      (i + 1 < r.invocations.length → record.status = "SUCCESS")
  status_ne_running : r.status ≠ "RUNNING"
  status_eq_success_iff : r.status = "SUCCESS" ↔ r.exitCode = 0
  /-- A failed run ends as its last record does. -/
  last_failed : ∀ record, r.invocations.getLast? = some record → record.status = "FAILED" →
    r.reasons = record.reasons ∧ 0 < r.exitCode ∧
      ∃ code, record.exitCode = some code ∧ r.exitCode = if 0 < code then code else 1
  reasons_eq_unknownTarget_iff :
    r.reasons = ["UNKNOWN_TARGET"] ↔ ∃ name ∈ r.requested, Target.IsUnknown name
  unknownTarget_empty : r.reasons = ["UNKNOWN_TARGET"] → r.invocations = [] ∧ r.exitCode = 2

namespace Run

variable {q : Request} {answer : Nat → List String → Completion} {clock : Clock}

/-- The records of calls tell the steps at their places and the answers to them. Each but the last
is a success. -/
theorem record_of_calls {program : String} {ss : List Step} {records : List InvocationRecord}
    (hm : records.map withoutPaths = (calls program answer 0 ss).map (·.record program)) {i : Nat}
    {record : InvocationRecord} (h : records[i]? = some record) :
    ∃ s, ss[i]? = some s ∧ record.Tells program i s ∧
      record.TellsAnswer (answer i record.command) ∧
      (i + 1 < records.length → record.status = "SUCCESS") := by
  have hi : (records.map withoutPaths)[i]? = some (withoutPaths record) := by
    rw [List.getElem?_map, h, Option.map_some]
  rw [hm, List.getElem?_map, Option.map_eq_some_iff] at hi
  obtain ⟨c, hc, hr⟩ := hi
  obtain ⟨hs, hidx, ha, hok⟩ := getElem?_calls hc
  rw [Nat.zero_add] at hidx ha
  have ht : record.Tells program i c.step :=
    hidx ▸ tells_of_withoutPaths (hr ▸ record_tells program c)
  have hta : record.TellsAnswer c.completion :=
    tellsAnswer_of_withoutPaths (hr ▸ record_tellsAnswer program c)
  refine ⟨c.step, hs, ht, ?_, fun hlt => ?_⟩
  · rw [ht.command_eq]
    rwa [ha] at hta
  · have hlen : records.length = (calls program answer 0 ss).length := by
      simpa using congrArg List.length hm
    rcases hta.status_cases with ⟨-, h⟩ | ⟨hne, -⟩
    · exact h
    · exact absurd (hok (hlen ▸ hlt)) hne

theorem verdict_of_ending (q : Request) (clock : Clock) (records : List InvocationRecord)
    (cs : List Call) :
    let r := receiptOf q clock records (ending cs)
    r.status ≠ "RUNNING" ∧ (r.status = "SUCCESS" ↔ r.exitCode = 0) ∧
      r.reasons ≠ ["UNKNOWN_TARGET"] := by
  rcases ending_cases cs with h | ⟨c, -, hc, h⟩
  · rw [h]
    simp [receiptOf, receipt, Status.text]
  · rw [h]
    have hpos := c.completion.runExitCode_pos
    refine ⟨by simp [receiptOf, receipt, Status.text], ?_, ?_⟩
    · simp only [receiptOf, receipt, Status.text]
      constructor
      · intro hs
        contradiction
      · intro h0
        omega
    · simp only [receiptOf, receipt]
      rcases Completion.judge_reasons_of_ne_zero hc with hr | hr <;> rw [hr] <;> decide

theorem last_failed_of_ending {records : List InvocationRecord} {cs : List Call}
    (hm : records.map withoutPaths = cs.map (·.record q.profile.program))
    {record : InvocationRecord} (hl : records.getLast? = some record)
    (hs : record.status = "FAILED") :
    let r := receiptOf q clock records (ending cs)
    r.reasons = record.reasons ∧ 0 < r.exitCode ∧
      ∃ code, record.exitCode = some code ∧ r.exitCode = if 0 < code then code else 1 := by
  have hlast : (cs.map (·.record q.profile.program)).getLast? = some (withoutPaths record) := by
    rw [← hm, List.getLast?_map, hl, Option.map_some]
  rw [List.getLast?_map, Option.map_eq_some_iff] at hlast
  obtain ⟨c, hc, hr⟩ := hlast
  have ht : record.TellsAnswer c.completion :=
    tellsAnswer_of_withoutPaths (hr ▸ record_tellsAnswer q.profile.program c)
  obtain ⟨-, h⟩ | ⟨hne, -⟩ := ht.status_cases
  · rw [hs] at h
    contradiction
  · have he : ending cs = some (.failed c.completion.judge.reasons c.completion.runExitCode) := by
      simp [ending, hc, Completion.stop?, hne]
    rw [he]
    exact ⟨ht.reasons_eq.symm, c.completion.runExitCode_pos, _, ht.exitCode_eq, rfl⟩

theorem unknown_isFaithful {e : UnknownTarget}
    (he : Plan.resolve q.requested q.profile.selectors = .error e) :
    (receipt q clock [] .failed [.unknownTarget] 2).IsFaithful q answer [] where
  requested_eq := rfl
  records_tell := by simp [receipt]
  commands_eq _ := rfl
  answers_tell := by simp [receipt]
  status_ne_running := by simp [receipt, Status.text]
  status_eq_success_iff := by simp [receipt, Status.text]
  last_failed := by simp [receipt]
  reasons_eq_unknownTarget_iff := by
    have hu := (Plan.resolve_eq_error_iff _ _ e).mp he
    exact ⟨fun _ => ⟨e.name, List.mem_of_find?_eq_some hu, by simpa using List.find?_some hu⟩,
      fun _ => rfl⟩
  unknownTarget_empty _ := ⟨rfl, rfl⟩

theorem dryRun_isFaithful (hq : q.dryRun = true) {plan : List Phase}
    (hp : Plan.resolve q.requested q.profile.selectors = .ok plan) (launched : List (List String)) :
    (receiptOf q clock ((Plan.steps plan).zipIdx.map fun (s, i) => planned q.profile.program i s)
      none).IsFaithful q answer launched where
  requested_eq := rfl
  records_tell i record h := by
    simp only [receiptOf_invocations, List.getElem?_map, List.getElem?_zipIdx, Option.map_map,
      Option.map_eq_some_iff] at h
    obtain ⟨s, hs, rfl⟩ := h
    refine ⟨plan, s, hp, hs, ?_⟩
    simpa using planned_tells q.profile.program i s
  commands_eq h := by simp [hq] at h
  answers_tell h := by simp [hq] at h
  status_ne_running := by simp [receiptOf, receipt, Status.text]
  status_eq_success_iff := by simp [receiptOf, receipt, Status.text]
  last_failed record h hs := by
    have hm := List.mem_of_getLast? h
    simp only [receiptOf, receipt, List.mem_map] at hm
    obtain ⟨⟨s, i⟩, -, rfl⟩ := hm
    simp [planned, Status.text] at hs
  reasons_eq_unknownTarget_iff := by
    have hk := (Plan.exists_resolve_eq_ok_iff _ _).mp ⟨plan, hp⟩
    simpa [receiptOf, receipt] using hk
  unknownTarget_empty h := by simp [receiptOf, receipt] at h

theorem calls_isFaithful {plan : List Phase}
    (hp : Plan.resolve q.requested q.profile.selectors = .ok plan) {records : List InvocationRecord}
    (hm : records.map withoutPaths =
      (calls q.profile.program answer 0 (Plan.steps plan)).map (·.record q.profile.program)) :
    let cs := calls q.profile.program answer 0 (Plan.steps plan)
    (receiptOf q clock records (ending cs)).IsFaithful q answer
      (cs.map (·.command q.profile.program)) := by
  intro cs
  have hv := verdict_of_ending q clock records cs
  exact {
    requested_eq := by
      rw [receiptOf_requested]
      rfl
    records_tell := by
      intro i record h
      rw [receiptOf_invocations] at h
      obtain ⟨s, hs, ht, -⟩ := record_of_calls hm h
      rw [receiptOf_requested, receiptOf_program]
      exact ⟨plan, s, hp, hs, ht⟩
    commands_eq := by
      intro _
      have hc := congrArg (List.map InvocationRecord.command) hm
      rw [List.map_map, List.map_map] at hc
      rw [Receipt.commands, receiptOf_invocations]
      exact hc
    answers_tell := by
      intro _ i record h
      rw [receiptOf_invocations] at h ⊢
      obtain ⟨s, -, -, ha, hok⟩ := record_of_calls hm h
      refine ⟨ha, ?_, hok⟩
      rcases ha.status_cases with ⟨-, hs⟩ | ⟨-, hs⟩ <;> rw [hs] <;> decide
    status_ne_running := hv.1
    status_eq_success_iff := hv.2.1
    last_failed := by
      intro record h hs
      rw [receiptOf_invocations] at h
      exact last_failed_of_ending hm h hs
    reasons_eq_unknownTarget_iff := by
      have hk := (Plan.exists_resolve_eq_ok_iff _ _).mp ⟨plan, hp⟩
      simpa [hv.2.2] using hk
    unknownTarget_empty := fun h => absurd h hv.2.2 }

end Run

/-- Every receipt that a run gives is faithful. -/
theorem Request.run_isFaithful {q : Request} {launcher : Launcher}
    {answer : Nat → List String → Completion} {clock : Clock} {files : FileTree} {r : Receipt}
    (hl : launcher.Answers answer) (hr : (q.run launcher clock files).outcome = .ok r) :
    r.IsFaithful q answer (q.run launcher clock files).trace.commands := by
  rcases Run.run_cases hr with ⟨e, he, hc, rfl⟩ | ⟨plan, hp, -, -, hrr⟩
  · rw [hc]
    exact Run.unknown_isFaithful he
  · cases hq : q.dryRun with
    | true =>
      rw [hrr, Run.steps_of_dryRun hq]
      exact Run.dryRun_isFaithful hq hp _
    | false =>
      obtain ⟨hc, hm, hr'⟩ := Run.run_account hq hl hr hp
      rw [hc, hr']
      exact Run.calls_isFaithful hp hm

/-- A signal ends the second call: the receipt of the run is faithful, and its exit code is one. -/
theorem Request.run_isFaithful_signal :
    let q : Request := { names := [] }
    let answers : List Completion := [⟨0, "", "", 4, none⟩, ⟨-9, "half", "", 6, none⟩]
    let report := q.run (.prepared answers) (fun _ => 0) .empty
    (Launcher.prepared answers).Answers (Launcher.preparedAnswer answers) ∧
      ∃ r, report.outcome = .ok r ∧ r.exitCode = 1 ∧
        r.IsFaithful q (Launcher.preparedAnswer answers) report.trace.commands := by
  intro q answers report
  have hl := Launcher.prepared_answers answers
  obtain ⟨r, hr⟩ : ∃ r, report.outcome = .ok r := ⟨_, rfl⟩
  refine ⟨hl, r, hr, ?_, Request.run_isFaithful hl hr⟩
  obtain rfl := Except.ok.inj hr
  rfl

end DualToolchain
