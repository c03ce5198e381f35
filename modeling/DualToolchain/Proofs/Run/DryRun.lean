import DualToolchain.Proofs.Plan
import DualToolchain.Proofs.Run.Trace

/-! Dry runs. A dry run announces and records its plan and launches nothing, so it is the same with
every launcher. What a real run of the same names and profile launches, records and announces is
what the dry run has planned, from the start on: all of it, unless a command before the last one
fails. -/

namespace DualToolchain

/-! ### Command lines -/

/-- The record is of the runner, on the level of information, and begins with a target in
brackets. -/
def LogRecord.isCommandLine (r : LogRecord) : Bool :=
  r.level = .info && r.source = .runner && r.message.toList.head? = some '['

namespace Trace

/-- The lines of the log that announce commands, in order. -/
def commandLines (t : Trace) : List String :=
  (t.records.filter LogRecord.isCommandLine).map (·.message)

@[simp] theorem commandLines_append (t t' : Trace) :
    commandLines (t ++ t') = commandLines t ++ commandLines t' := by
  simp [commandLines, records]

theorem commandLines_eq_nil {t : Trace} (h : ∀ r ∈ t.records, r.isCommandLine = false) :
    commandLines t = [] := by
  simp only [commandLines, List.map_eq_nil_iff, List.filter_eq_nil_iff]
  exact fun r hr => by simp [h r hr]

end Trace

/-- Nothing that a launcher logs goes by the name of the runner. -/
def Launcher.LogsAsItself (launcher : Launcher) : Prop :=
  ∀ i command, ∀ r ∈ (launcher i command).events.records, r.source ≠ .runner

theorem Launcher.prepared_logsAsItself (answers : List Completion) :
    (Launcher.prepared answers).LogsAsItself := by
  intro i command r hr
  simp [Launcher.prepared, Trace.records, Event.record?] at hr

/-- What is logged of a process comes from the launcher and is for debugging. -/
theorem Launcher.exists_of_mem_records_processes {s : ProcessSettings} {runs : List ProcessRun}
    {i : Nat} {command : List String} {r : LogRecord}
    (hr : r ∈ (Launcher.processes s runs i command).events.records) :
    ∃ message, r = ⟨.debug, .launcher, message⟩ := by
  simp only [Launcher.processes, ProcessSettings.run] at hr
  split at hr
  · split at hr
    · simp [Trace.records, Event.record?] at hr
    · unfold ProcessSettings.completion at hr
      cases command with
      | nil => simp [Trace.records, Event.record?] at hr
      | cons program arguments => exact ⟨_, List.mem_singleton.mp hr⟩
  · unfold ProcessSettings.failure at hr
    cases command with
    | nil => simp [Trace.records, Event.record?] at hr
    | cons program arguments =>
      simp only at hr
      split at hr <;> simp [Trace.records, Event.record?] at hr
  · simp [Trace.records, Event.record?] at hr

theorem Launcher.processes_logsAsItself (s : ProcessSettings) (runs : List ProcessRun) :
    (Launcher.processes s runs).LogsAsItself := by
  intro i command r hr
  obtain ⟨message, rfl⟩ := Launcher.exists_of_mem_records_processes hr
  simp

theorem Launcher.LogsAsItself.commandLines {launcher : Launcher} (h : launcher.LogsAsItself)
    (i : Nat) (command : List String) : (launcher i command).events.commandLines = [] :=
  Trace.commandLines_eq_nil fun r hr => by simp [LogRecord.isCommandLine, h i command r hr]

def InvocationRecord.announcement (r : InvocationRecord) : String :=
  "[" ++ r.target ++ "] " ++ ShellWord.join r.command

/-- The record as it is before anything has come of its command. -/
def InvocationRecord.unsettled (r : InvocationRecord) : InvocationRecord :=
  { r with
    exitCode := none
    status := "SKIPPED"
    reasons := []
    durationMs := 0
    stdoutPath := none
    stderrPath := none }

namespace Run

variable {q : Request} {launcher : Launcher} {clock : Clock} {files : FileTree} {r : Receipt}

theorem commandLines_info (message : String) (t : Trace) :
    Trace.commandLines (log .info message :: t) =
      if message.toList.head? = some '[' then message :: t.commandLines else t.commandLines := by
  split_ifs with h <;>
    simp [Trace.commandLines, Trace.records, log, Event.record?, LogRecord.isCommandLine, h]

theorem commandLines_of_ne_info {level : LogLevel} (h : level ≠ .info) (message : String)
    (t : Trace) : Trace.commandLines (log level message :: t) = t.commandLines := by
  simp [Trace.commandLines, Trace.records, log, Event.record?, LogRecord.isCommandLine, h]

theorem commandLines_announced (program : String) (s : Step) (t : Trace) :
    Trace.commandLines (log .info (commandMessage program s) :: t) =
      commandMessage program s :: t.commandLines := by
  simp [commandLines_info, commandMessage]

theorem Call.commandLines_events (hlog : launcher.LogsAsItself) (program : String) (c : Call) :
    (c.events program launcher).commandLines = [commandMessage program c.step] := by
  rw [Call.events, List.cons_append, commandLines_announced, Trace.commandLines_append,
    hlog.commandLines]
  split_ifs
  · rfl
  · rw [commandLines_of_ne_info (by decide)]
    rfl

theorem commandLines_of_calls (hlog : launcher.LogsAsItself) (program : String) (cs : List Call) :
    Trace.commandLines (cs.flatMap (·.events program launcher)) =
      cs.map fun c => commandMessage program c.step := by
  induction cs with
  | nil => rfl
  | cons c cs ih =>
    rw [List.flatMap_cons, Trace.commandLines_append, Call.commandLines_events hlog, ih]
    rfl

theorem commandLines_of_steps (program : String) (ss : List Step) :
    Trace.commandLines (ss.map fun s => log .info (commandMessage program s)) =
      ss.map (commandMessage program) := by
  induction ss with
  | nil => rfl
  | cons s ss ih => rw [List.map_cons, commandLines_announced, ih, List.map_cons]

/-- The names of targets have no bracket. -/
theorem head?_ne_of_known {name : String} (h : ¬ Target.IsUnknown name) :
    name.toList ≠ [] ∧ name.toList.head? ≠ some '[' := by
  obtain ⟨t, ht⟩ := Option.ne_none_iff_exists'.mp h
  have hname : t.name = name := by
    simpa using List.find?_some ht
  rw [← hname]
  rcases t with (_ | _) | (_ | _ | _ | _) <;> decide

theorem requested_ne_nil (q : Request) : q.requested ≠ [] := by
  unfold Request.requested
  split_ifs with h
  · simp
  · exact h

theorem head?_successMessage (hk : ∀ name ∈ q.requested, ¬ Target.IsUnknown name) (count : Nat) :
    (successMessage q count).toList.head? ≠ some '[' := by
  obtain ⟨name, rest, hreq⟩ := List.exists_cons_of_ne_nil (requested_ne_nil q)
  obtain ⟨hne, hhead⟩ := head?_ne_of_known (hk name (hreq ▸ List.mem_cons_self))
  obtain ⟨c, cs, hname⟩ := List.exists_cons_of_ne_nil hne
  have hjoin : ∃ tail, (" ".intercalate q.requested).toList = c :: tail := by
    rw [hreq, String.toList_intercalate, List.map_cons, hname]
    cases rest <;> exact ⟨_, rfl⟩
  obtain ⟨tail, hjoin⟩ := hjoin
  rw [hname] at hhead
  simp only [successMessage, String.toList_append, hjoin, List.cons_append]
  exact hhead

theorem commandLines_closing (hk : ∀ name ∈ q.requested, ¬ Target.IsUnknown name)
    (status : Status) (count : Nat) : (closing q status count).commandLines = [] := by
  rw [closing, Trace.commandLines_append, List.append_eq_nil_iff]
  constructor
  · split_ifs
    · rw [commandLines_info, if_neg (head?_successMessage hk count)]
      rfl
    · rfl
  · split
    · rfl
    · rw [commandLines_info, if_neg (by simp)]
      rfl

/-! ### Calls and plans -/

/-- The calls are the steps from the first one on, each at its place. -/
theorem calls_map_step (program : String) (answer : Nat → List String → Completion)
    (ss : List Step) (i : Nat) :
    (calls program answer i ss).map (fun c => (c.step, c.index)) =
      (ss.zipIdx i).take (calls program answer i ss).length := by
  induction ss generalizing i with
  | nil => rfl
  | cons s rest ih =>
    simp only [calls, List.zipIdx_cons]
    split_ifs
    · simp [ih]
    · simp

theorem calls_map_step_fst (program : String) (answer : Nat → List String → Completion)
    (ss : List Step) (i : Nat) :
    (calls program answer i ss).map (·.step) =
      ss.take (calls program answer i ss).length := by
  have h := congrArg (List.map Prod.fst) (calls_map_step program answer ss i)
  rw [List.map_map, List.map_take, List.zipIdx_map_fst] at h
  exact h

theorem length_calls_of_ending_eq_none {program : String}
    {answer : Nat → List String → Completion} {ss : List Step} {i : Nat}
    (h : ending (calls program answer i ss) = none) :
    (calls program answer i ss).length = ss.length := by
  induction ss generalizing i with
  | nil => rfl
  | cons s rest ih =>
    by_cases hc : (answer i (s.invocation.command program)).exitCode = 0
    · simp only [calls, if_pos hc] at h ⊢
      rw [ending_cons _ _ hc] at h
      simp [ih h]
    · simp only [calls, if_neg hc] at h
      exact absurd ((Completion.stop?_eq_none_iff _).mp h) hc

/-! ### Dry runs -/

/-- Where no receipt is given, it is because one cannot be written into the files that were
found. -/
def Report.FaultsAtReceipt (report : Report) (q : Request) (files : FileTree) : Prop :=
  ∀ fault, report.outcome = .error fault → ∃ dir r fileFault, q.outputDir = some dir ∧
    (RunDirectory.writeReceipt files dir r).result = .error fileFault ∧ fault = .file fileFault

theorem finish_faultsAtReceipt (q : Request) (clock : Clock) (st : RunState) (status : Status)
    (reasons : List Reason) (exitCode : Int) :
    (finish q clock st status reasons exitCode).FaultsAtReceipt q st.files := by
  intro fault h
  cases hd : q.outputDir with
  | none => simp [finish, hd] at h
  | some dir =>
    simp only [finish, hd] at h
    split at h
    · rename_i hw
      exact ⟨dir, _, _, rfl, hw, (Except.error.inj h).symm⟩
    · contradiction

/-- Nothing is launched, and nothing has come of the commands that are recorded. -/
structure Report.IsDry (report : Report) (q : Request) (files : FileTree) : Prop where
  commands_eq_nil : report.trace.commands = []
  unsettled : ∀ r, report.outcome = .ok r → ∀ record ∈ r.invocations, record.unsettled = record
  faults : report.FaultsAtReceipt q files

theorem run_isDry (hq : q.dryRun = true) (launcher : Launcher) (clock : Clock)
    (files : FileTree) : (q.run launcher clock files).IsDry q files := by
  cases hp : Plan.resolve q.requested q.profile.selectors with
  | error e =>
    rw [run_eq_finish_of_unknown clock hp]
    refine ⟨by rw [finish_commands]; rfl, fun r hr => ?_, finish_faultsAtReceipt q clock _ _ _ _⟩
    rw [finish_outcome hr]
    simp [receipt]
  | ok plan =>
    rw [run_of_dryRun hq launcher clock files hp]
    refine ⟨?_, fun r hr => ?_, finish_faultsAtReceipt q clock _ _ _ _⟩
    · rw [finish_commands]
      simp [Trace.commands, Trace.launches, log, Event.launch?]
    · rw [finish_outcome hr]
      intro record hm
      obtain ⟨⟨s, i⟩, -, rfl⟩ := List.mem_map.mp hm
      rfl

theorem run_of_dryRun_eq (hq : q.dryRun = true) (launcher launcher' : Launcher) (clock : Clock)
    (files : FileTree) : q.run launcher clock files = q.run launcher' clock files := by
  cases hp : Plan.resolve q.requested q.profile.selectors with
  | error e => rw [run_eq_finish_of_unknown clock hp, run_eq_finish_of_unknown clock hp]
  | ok plan =>
    rw [run_of_dryRun hq launcher clock files hp, run_of_dryRun hq launcher' clock files hp]

/-! ### Plans and real runs -/

/-- What a dry run says beforehand of a real run with the launcher: the planned commands are
launched, recorded and announced from the first one on, and all of them exactly if none fails before
the last. -/
structure Report.Foretells (dry : Report) (p : Receipt) (launcher : Launcher) (real : Report)
    (r : Receipt) : Prop where
  commands_eq : real.trace.commands = (p.invocations.map (·.command)).take r.invocations.length
  records_eq : r.invocations.map InvocationRecord.unsettled =
    p.invocations.take r.invocations.length
  all_iff : real.trace.commands = p.invocations.map (·.command) ↔
    r.status = "SUCCESS" ∨ ∃ record ∈ r.invocations, record.status = "FAILED" ∧
      record.index + 1 = p.invocations.length
  commandLines_eq : launcher.LogsAsItself →
    real.trace.commandLines = dry.trace.commandLines.take r.invocations.length

section Foretells

variable {d : Request} {answer : Nat → List String → Completion} {program : String}
  {ss : List Step} {p : Receipt}

theorem unsettled_of_calls {records : List InvocationRecord}
    (hm : records.map withoutPaths = (calls program answer 0 ss).map (·.record program)) :
    records.map InvocationRecord.unsettled =
      (ss.zipIdx.map fun (s, i) => planned program i s).take records.length := by
  have hlen := length_of_map_record hm
  have hrecords := congrArg (List.map InvocationRecord.unsettled) hm
  have hsteps := congrArg (List.map fun (s, i) => planned program i s)
    (calls_map_step program answer ss 0)
  rw [List.map_map, List.map_map] at hrecords
  rw [List.map_map, List.map_take, ← hlen] at hsteps
  exact hrecords.trans hsteps

/-- All steps are called exactly if the verdict on the calls is a success or the last step has the
record of a failure. -/
theorem length_le_of_calls_iff (q : Request) (clock : Clock) {records : List InvocationRecord}
    (hm : records.map withoutPaths = (calls program answer 0 ss).map (·.record program)) :
    ss.length ≤ records.length ↔
      (receiptOf q clock records (ending (calls program answer 0 ss))).status = "SUCCESS" ∨
      ∃ record ∈ records, record.status = "FAILED" ∧ record.index + 1 = ss.length := by
  have hlen := length_of_map_record hm
  rcases ending_cases (calls program answer 0 ss) with h | ⟨c, hlast, hc, h⟩
  · rw [hlen, length_calls_of_ending_eq_none h, h]
    exact iff_of_true (Nat.le_refl _) (.inl rfl)
  · rw [h]
    have hstatus : (receiptOf q clock records (some (.failed c.completion.judge.reasons
        c.completion.runExitCode))).status ≠ "SUCCESS" := by
      simp [receiptOf, receipt, Status.text]
    simp only [hstatus, false_or]
    constructor
    · intro hle
      -- The call that failed is the last one, and it is that of the last step.
      rw [List.getLast?_eq_getElem?] at hlast
      obtain ⟨hstep, hindex, -⟩ := getElem?_calls hlast
      have hlt := (List.getElem?_eq_some_iff.mp hstep).1
      have hpos := (List.getElem?_eq_some_iff.mp hlast).1
      obtain ⟨record, hmem, hrecord⟩ := List.mem_map.mp
        (hm ▸ List.mem_map_of_mem (List.mem_of_getElem? hlast) :
          c.record program ∈ records.map withoutPaths)
      have hr : record.status = (c.record program).status := congrArg (·.status) hrecord
      have hi : record.index = c.index := congrArg (·.index) hrecord
      refine ⟨record, hmem, ?_, by omega⟩
      rw [hr, Call.record, settled, Completion.judge_status_of_ne_zero hc]
      rfl
    · rintro ⟨record, hmem, -, hindex⟩
      obtain ⟨c', hc', hrecord⟩ := List.mem_map.mp (hm ▸ List.mem_map_of_mem hmem :
        withoutPaths record ∈ (calls program answer 0 ss).map (·.record program))
      obtain ⟨i, hi⟩ := List.mem_iff_getElem?.mp hc'
      obtain ⟨-, hidx, -⟩ := getElem?_calls hi
      have hlt := (List.getElem?_eq_some_iff.mp hi).1
      have hri : c'.index = record.index := congrArg (·.index) hrecord
      omega

theorem map_announcement_planned (ss : List Step) :
    (ss.zipIdx.map fun (s, i) => planned program i s).map InvocationRecord.announcement =
      ss.map (commandMessage program) := by
  have hfst := congrArg (List.map (commandMessage program)) (List.zipIdx_map_fst 0 ss)
  rw [List.map_map] at hfst ⊢
  exact hfst

theorem run_commandLines_of_dryRun (hd : d.dryRun = true) {plan : List Phase}
    (hplan : Plan.resolve d.requested d.profile.selectors = .ok plan)
    (hk : ∀ name ∈ d.requested, ¬ Target.IsUnknown name)
    (hp : (d.run launcher clock files).outcome = .ok p) :
    (d.run launcher clock files).trace.commandLines =
        (Plan.steps plan).map (commandMessage d.profile.program) ∧
      p.invocations.map (·.announcement) =
        (Plan.steps plan).map (commandMessage d.profile.program) := by
  obtain ⟨htrace, rfl⟩ := run_trace_of_dryRun hd hplan hp
  refine ⟨?_, map_announcement_planned _⟩
  rw [htrace, Trace.commandLines_append, commandLines_closing hk, List.append_nil,
    commandLines_of_ne_info (by decide), commandLines_of_steps]

/-- What a real run announces are the commands of its calls. -/
theorem run_commandLines (hq : q.dryRun = false) {plan : List Phase}
    (hplan : Plan.resolve q.requested q.profile.selectors = .ok plan)
    (hk : ∀ name ∈ q.requested, ¬ Target.IsUnknown name) (hlog : launcher.LogsAsItself)
    (hr : (q.run launcher clock files).outcome = .ok r) :
    (q.run launcher clock files).trace.commandLines =
      ((Plan.steps plan).map (commandMessage q.profile.program)).take r.invocations.length := by
  obtain ⟨-, htrace, hm, -⟩ := run_trace hq hplan hr
  have hlen := length_of_map_record hm
  have hsteps := congrArg (List.map (commandMessage q.profile.program))
    (calls_map_step_fst q.profile.program launcher.completion (Plan.steps plan) 0)
  rw [List.map_map, List.map_take] at hsteps
  rw [htrace, Trace.commandLines_append, commandLines_closing hk, List.append_nil,
    commandLines_of_ne_info (by decide), commandLines_of_calls hlog, hlen, ← hsteps]
  rfl

/-- A dry run that gives a receipt foretells the real runs of the same names and profile that give
one. -/
theorem run_foretells (hd : d.dryRun = true) (hq : q.dryRun = false)
    (hreq : d.requested = q.requested) (hprofile : d.profile = q.profile)
    (hl : launcher.Answers answer) {any : Launcher} {clock' : Clock} {files' : FileTree}
    (hk : ∀ name ∈ d.requested, ¬ Target.IsUnknown name)
    (hp : (d.run any clock files).outcome = .ok p)
    (hr : (q.run launcher clock' files').outcome = .ok r) :
    Report.Foretells (d.run any clock files) p launcher (q.run launcher clock' files') r := by
  obtain ⟨plan, hplan⟩ := (Plan.exists_resolve_eq_ok_iff _ d.profile.selectors).mpr hk
  obtain ⟨hdlines, -⟩ := run_commandLines_of_dryRun hd hplan hk hp
  obtain ⟨-, rfl⟩ := run_trace_of_dryRun hd hplan hp
  rw [hreq, hprofile] at hplan
  rw [hprofile] at hdlines
  rw [hreq] at hk
  obtain ⟨hcommands, hm, hrr⟩ := run_account hq hl hr hplan
  have hrecords := unsettled_of_calls hm
  have hplanned : (receipt d clock ((Plan.steps plan).zipIdx.map fun (s, i) =>
      planned d.profile.program i s) .success [] 0).invocations =
      (Plan.steps plan).zipIdx.map fun (s, i) => planned q.profile.program i s := by
    rw [hprofile]
    rfl
  -- The commands of the calls are those of their records.
  have hlaunched : (q.run launcher clock' files').trace.commands =
      (((Plan.steps plan).zipIdx.map fun (s, i) => planned q.profile.program i s).map
        (·.command)).take r.invocations.length := by
    have h := congrArg (List.map (·.command)) hrecords
    have h' := congrArg (List.map (·.command)) hm
    rw [List.map_map] at h
    rw [List.map_map, List.map_map] at h'
    rw [← List.map_take, ← h, hcommands]
    exact h'.symm
  refine ⟨?_, ?_, ?_, fun hlog => ?_⟩
  · rw [hplanned, hlaunched]
  · rw [hplanned, hrecords]
  · have hall := length_le_of_calls_iff q clock' hm
    rw [← hrr] at hall
    rw [hplanned, hlaunched, List.length_map, List.length_zipIdx, ← hall]
    refine ⟨fun h => ?_, fun h => List.take_of_length_le (by simpa using h)⟩
    have hlen := congrArg List.length h
    simp only [List.length_take, List.length_map, List.length_zipIdx] at hlen
    omega
  · rw [run_commandLines hq hplan hk hlog hr, hdlines]

end Foretells

end Run

/-- A dry run does not depend on its launcher and launches nothing; its records tell of commands
that nothing has come of. If all names are known, its receipt is that of a success, and what any
real run of the same names and profile launches, records and announces is what the dry run has, from
the start on. If a name is unknown, neither launches anything, and they end alike. -/
theorem Request.dryRun_foretells {d q : Request} {launcher : Launcher}
    {answer : Nat → List String → Completion} (hd : d.dryRun = true) (hq : q.dryRun = false)
    (hnames : d.names = q.names) (hprofile : d.profile = q.profile) (hl : launcher.Answers answer)
    (any : Launcher) (clock clock' : Clock) (files files' : FileTree) :
    let dry := d.run any clock files
    let real := q.run launcher clock' files'
    (∀ other, d.run other clock files = dry) ∧ dry.IsDry d files ∧
    ((∀ name ∈ d.requested, ¬ Target.IsUnknown name) → ∀ p, dry.outcome = .ok p →
      p.status = "SUCCESS" ∧ dry.trace.commandLines = p.invocations.map (·.announcement) ∧
      ∀ r, real.outcome = .ok r → dry.Foretells p launcher real r) ∧
    ((∃ name ∈ d.requested, Target.IsUnknown name) →
      real.trace.commands = [] ∧ real.FaultsAtReceipt q files' ∧
      ∀ p r, dry.outcome = .ok p → real.outcome = .ok r →
        p.status = r.status ∧ p.reasons = r.reasons ∧ p.exitCode = r.exitCode) := by
  have hreq : d.requested = q.requested := by
    rw [Request.requested, Request.requested, hnames, hprofile]
  refine ⟨fun other => Run.run_of_dryRun_eq hd other any clock files,
    Run.run_isDry hd any clock files, fun hk p hp => ?_, ?_⟩
  · obtain ⟨plan, hplan⟩ := (Plan.exists_resolve_eq_ok_iff _ d.profile.selectors).mpr hk
    obtain ⟨hlines, hannounced⟩ := Run.run_commandLines_of_dryRun hd hplan hk hp
    refine ⟨?_, hlines.trans hannounced.symm, fun r hr => ?_⟩
    · rw [(Run.run_trace_of_dryRun hd hplan hp).2]
      rfl
    · exact Run.run_foretells hd hq hreq hprofile hl hk hp hr
  · rintro ⟨name, hmem, hu⟩
    cases hp : Plan.resolve d.requested d.profile.selectors with
    | ok plan => exact absurd hu ((Plan.exists_resolve_eq_ok_iff _ _).mp ⟨plan, hp⟩ name hmem)
    | error e =>
      have hp' := hp
      rw [hreq, hprofile] at hp'
      rw [Run.run_eq_finish_of_unknown clock hp, Run.run_eq_finish_of_unknown clock' hp']
      refine ⟨by rw [Run.finish_commands]; rfl, Run.finish_faultsAtReceipt q clock' _ _ _ _,
        fun p r hdry hreal => ?_⟩
      rw [Run.finish_outcome hdry, Run.finish_outcome hreal]
      exact ⟨rfl, rfl, rfl⟩

/-- The second of four commands fails in the real run, which has a directory. -/
theorem Request.dryRun_foretells_second :
    let q : Request := { names := ["all"], outputDir := some (.ofString "out") }
    let d : Request := { q with outputDir := none, dryRun := true }
    let answers : List Completion := [⟨0, "built", "", 4, none⟩, ⟨101, "", "error", 5, none⟩]
    let dry := d.run (.prepared []) (fun _ => 0) .empty
    let real := q.run (.prepared answers) (fun _ => 1) .empty
    d.dryRun = true ∧ q.dryRun = false ∧ d.names = q.names ∧ d.profile = q.profile ∧
      (Launcher.prepared answers).Answers (Launcher.preparedAnswer answers) ∧
      (∀ name ∈ d.requested, ¬ Target.IsUnknown name) ∧
      dry.outcome.map (·.invocations.length) = .ok 4 ∧
      real.outcome.map (·.invocations.length) = .ok 2 ∧
      ∀ p r, dry.outcome = .ok p → real.outcome = .ok r →
        dry.Foretells p (.prepared answers) real r ∧
        real.trace.commandLines = dry.trace.commandLines.take r.invocations.length := by
  intro q d answers dry real
  have hl := Launcher.prepared_answers answers
  have hk : ∀ name ∈ d.requested, ¬ Target.IsUnknown name := by decide
  obtain ⟨-, -, hknown, -⟩ := Request.dryRun_foretells (d := d) (q := q) rfl rfl rfl rfl hl
    (.prepared []) (fun _ => 0) (fun _ => 1) .empty .empty
  refine ⟨rfl, rfl, rfl, rfl, hl, hk, by decide +kernel, by decide +kernel, fun p r hp hr => ?_⟩
  have hforetells := (hknown hk p hp).2.2 r hr
  exact ⟨hforetells, hforetells.commandLines_eq (Launcher.prepared_logsAsItself answers)⟩

end DualToolchain
