import DualToolchain.Proofs.Run.DryRun
import DualToolchain.Proofs.Text.ShellWord

/-! What the log tells of a run that gives a receipt. The recorded commands are announced, each
before anything that its launch shows; before the first and after the last of them the runner only
writes lines that announce nothing, and one of these is an error exactly if the run has failed. -/

namespace DualToolchain

namespace Trace

def errors (t : Trace) : List LogRecord :=
  t.records.filter (·.level = .error)

def runnerErrors (t : Trace) : List LogRecord :=
  t.errors.filter (·.source = .runner)

theorem records_append (t t' : Trace) : records (t ++ t') = records t ++ records t' :=
  List.filterMap_append

@[simp] theorem errors_append (t t' : Trace) : errors (t ++ t') = errors t ++ errors t' := by
  simp [errors, records_append]

@[simp] theorem runnerErrors_append (t t' : Trace) :
    runnerErrors (t ++ t') = runnerErrors t ++ runnerErrors t' := by
  simp [runnerErrors]

end Trace

def Launcher.LogsNoErrors (launcher : Launcher) : Prop :=
  ∀ i command, ∀ r ∈ (launcher i command).events.records, r.level ≠ .error

theorem Launcher.prepared_logsNoErrors (answers : List Completion) :
    (Launcher.prepared answers).LogsNoErrors := by
  intro i command r hr
  simp [Launcher.prepared, Trace.records, Event.record?] at hr

theorem Launcher.processes_logsNoErrors (s : ProcessSettings) (runs : List ProcessRun) :
    (Launcher.processes s runs).LogsNoErrors := by
  intro i command r hr
  obtain ⟨message, rfl⟩ := Launcher.exists_of_mem_records_processes hr
  simp

/-- The line that announces a record gives its target in brackets and the words of its command. -/
theorem InvocationRecord.exists_split?_announcement (record : InvocationRecord) :
    ∃ text, record.announcement = "[" ++ record.target ++ "] " ++ text ∧
      ShellWord.split? text = some record.command :=
  ⟨_, rfl, ShellWord.split?_join record.command⟩

/-- What is seen of a record: it is announced, and then its launch shows what the launcher gives.
There are no launches in a dry run. -/
def InvocationRecord.seen (launcher : Launcher) (dryRun : Bool) (i : Nat)
    (record : InvocationRecord) : Trace :=
  Run.log .info record.announcement ::
    if dryRun then [] else (launcher i record.command).events

/-- A line of the runner that announces nothing. -/
def Event.IsPlain (e : Event) : Prop :=
  ∃ record : LogRecord, e = .log record ∧ record.source = .runner ∧ record.isCommandLine = false

/-- A trace is `head`, what is seen of the records of a receipt in order, and `tail`. The two hold
lines of the runner that announce nothing, among them an error exactly if the receipt is that of a
failure. -/
structure Receipt.IsSeen (r : Receipt) (launcher : Launcher) (dryRun : Bool)
    (head tail t : Trace) : Prop where
  trace_eq : t =
    head ++ r.invocations.zipIdx.flatMap (fun (record, i) => record.seen launcher dryRun i) ++ tail
  isPlain : ∀ e ∈ head ++ tail, e.IsPlain
  length_errors : (head ++ tail).errors.length = if r.status = "FAILED" then 1 else 0

namespace Run

variable {q : Request} {launcher : Launcher} {clock : Clock} {files : FileTree} {r : Receipt}

/-! ### Lines of the runner -/

theorem isPlain_of_ne_info {level : LogLevel} (h : level ≠ .info) (message : String) :
    (log level message).IsPlain :=
  ⟨_, rfl, rfl, by simp [LogRecord.isCommandLine, h]⟩

theorem isPlain_info {message : String} (h : message.toList.head? ≠ some '[') :
    (log .info message).IsPlain :=
  ⟨_, rfl, rfl, by simp [LogRecord.isCommandLine, h]⟩

theorem errors_of_ne_error {level : LogLevel} (h : level ≠ .error) (message : String)
    (t : Trace) : Trace.errors (log level message :: t) = t.errors := by
  simp [Trace.errors, Trace.records, log, Event.record?, h]

theorem errors_error (message : String) (t : Trace) :
    Trace.errors (log .error message :: t) = ⟨.error, .runner, message⟩ :: t.errors := by
  simp [Trace.errors, Trace.records, log, Event.record?]

/-- The end of a run announces nothing: a success is told of names that are known. -/
theorem isPlain_of_mem_closing {status : Status} {count : Nat}
    (h : status = .success → ∀ name ∈ q.requested, ¬ Target.IsUnknown name) {e : Event}
    (he : e ∈ closing q status count) : e.IsPlain := by
  rcases List.mem_append.mp he with he | he
  · split_ifs at he with hs
    · rw [List.mem_singleton.mp he]
      exact isPlain_info (head?_successMessage (h hs) count)
    · simp at he
  · split at he
    · simp at he
    · rw [List.mem_singleton.mp he]
      exact isPlain_info (by simp)

theorem errors_closing (status : Status) (count : Nat) : (closing q status count).errors = [] := by
  rw [closing, Trace.errors_append, List.append_eq_nil_iff]
  constructor
  · split_ifs
    · exact errors_of_ne_error (by decide) _ _
    · rfl
  · split
    · rfl
    · exact errors_of_ne_error (by decide) _ _

/-! ### Calls -/

def failureLines (cs : List Call) : Trace :=
  (cs.filter (·.completion.exitCode ≠ 0)).map fun c =>
    log .error (failureMessage c.step c.completion)

theorem failureLines_cons_of_eq_zero {c : Call} (hc : c.completion.exitCode = 0) (cs : List Call) :
    failureLines (c :: cs) = failureLines cs := by
  rw [failureLines, List.filter_cons_of_neg (by simpa using hc), failureLines]

theorem failureLines_of_ne_zero {c : Call} (hc : c.completion.exitCode ≠ 0) :
    failureLines [c] = [log .error (failureMessage c.step c.completion)] := by
  rw [failureLines, List.filter_cons_of_pos (by simpa using hc)]
  rfl

theorem isPlain_of_mem_failureLines {cs : List Call} {e : Event} (he : e ∈ failureLines cs) :
    e.IsPlain := by
  obtain ⟨c, -, rfl⟩ := List.mem_map.mp he
  exact isPlain_of_ne_info (by decide) _

/-- What is seen of the calls of steps ends with the line of the failure, for only the last of them
can fail. -/
theorem flatMap_events_calls (program : String) (launcher : Launcher)
    (answer : Nat → List String → Completion) (ss : List Step) (i : Nat) :
    let cs := calls program answer i ss
    cs.flatMap (·.events program launcher) =
      cs.flatMap (fun c => (c.record program).seen launcher false c.index) ++ failureLines cs := by
  induction ss generalizing i with
  | nil => rfl
  | cons s rest ih =>
    simp only [calls] at ih ⊢
    split_ifs with hc
    · rw [List.flatMap_cons, List.flatMap_cons, ih, failureLines_cons_of_eq_zero hc, Call.events,
        if_pos hc, List.append_nil, List.append_assoc]
      rfl
    · rw [List.flatMap_singleton, List.flatMap_singleton, failureLines_of_ne_zero hc, Call.events,
        if_neg hc]
      rfl

theorem length_errors_failureLines (program : String) (answer : Nat → List String → Completion)
    (ss : List Step) (i : Nat) :
    let cs := calls program answer i ss
    (failureLines cs).errors.length = (ending cs).toList.length := by
  induction ss generalizing i with
  | nil => rfl
  | cons s rest ih =>
    simp only [calls] at ih ⊢
    split_ifs with hc
    · rw [failureLines_cons_of_eq_zero hc, ending_cons _ _ hc, ih]
    · rw [failureLines_of_ne_zero hc, errors_error]
      simp [Trace.errors, Trace.records, ending, Completion.stop?, hc]

theorem zipIdx_map_record (program : String) (answer : Nat → List String → Completion)
    (ss : List Step) (i : Nat) :
    ((calls program answer i ss).map (·.record program)).zipIdx i =
      (calls program answer i ss).map fun c => (c.record program, c.index) := by
  induction ss generalizing i with
  | nil => rfl
  | cons s rest ih =>
    simp only [calls]
    split_ifs
    · rw [List.map_cons, List.zipIdx_cons, ih, List.map_cons]
    · rfl

/-- What is seen of records does not depend on the paths of their streams. -/
theorem flatMap_seen_of_calls {program : String} {answer : Nat → List String → Completion}
    {ss : List Step} {records : List InvocationRecord}
    (hm : records.map withoutPaths = (calls program answer 0 ss).map (·.record program))
    (dryRun : Bool) :
    records.zipIdx.flatMap (fun (record, i) => record.seen launcher dryRun i) =
      (calls program answer 0 ss).flatMap
        fun c => (c.record program).seen launcher dryRun c.index := by
  have hz := zipIdx_map_record program answer ss 0
  rw [← hm, List.zipIdx_map] at hz
  have hseen := congrArg (List.flatMap fun (record, i) =>
    InvocationRecord.seen launcher dryRun i record) hz
  rw [List.flatMap_map, List.flatMap_map] at hseen
  exact hseen

theorem flatMap_seen_of_dryRun (launcher : Launcher) (records : List InvocationRecord) (i : Nat) :
    (records.zipIdx i).flatMap (fun (record, i) => record.seen launcher true i) =
      (records.map InvocationRecord.announcement).map (log .info) := by
  induction records generalizing i with
  | nil => rfl
  | cons record records ih =>
    rw [List.zipIdx_cons, List.flatMap_cons, ih]
    rfl

/-! ### The whole run -/

theorem run_isSeen_of_unknown {e : UnknownTarget}
    (he : Plan.resolve q.requested q.profile.selectors = .error e)
    (hr : (q.run launcher clock files).outcome = .ok r) (dryRun : Bool) :
    r.IsSeen launcher dryRun [log .error e.message] (closing q .failed 0)
      (q.run launcher clock files).trace := by
  have htrace := run_trace_of_unknown he hr
  rw [run_eq_finish_of_unknown clock he] at hr
  obtain rfl := finish_outcome hr
  refine ⟨htrace, fun e' he' => ?_, ?_⟩
  · rcases List.mem_append.mp he' with he' | he'
    · rw [List.mem_singleton.mp he']
      exact isPlain_of_ne_info (by decide) _
    · exact isPlain_of_mem_closing (fun h => by contradiction) he'
  · rw [Trace.errors_append, errors_closing]
    rfl

theorem run_isSeen_of_dryRun (hq : q.dryRun = true) {plan : List Phase}
    (hp : Plan.resolve q.requested q.profile.selectors = .ok plan)
    (hr : (q.run launcher clock files).outcome = .ok r) :
    r.IsSeen launcher true [log .debug (planMessage q plan)]
      (closing q .success (Plan.steps plan).length) (q.run launcher clock files).trace := by
  have hk := (Plan.exists_resolve_eq_ok_iff _ _).mp ⟨plan, hp⟩
  obtain ⟨htrace, rfl⟩ := run_trace_of_dryRun hq hp hr
  refine ⟨?_, fun e he => ?_, ?_⟩
  · rw [htrace, receipt, flatMap_seen_of_dryRun, map_announcement_planned, List.map_map]
    rfl
  · rcases List.mem_append.mp he with he | he
    · rw [List.mem_singleton.mp he]
      exact isPlain_of_ne_info (by decide) _
    · exact isPlain_of_mem_closing (fun _ => hk) he
  · rw [Trace.errors_append, errors_closing]
    rfl

/-- A real run announces each call before it is launched, and tells of the call that failed. -/
theorem run_isSeen_of_real (hq : q.dryRun = false) {plan : List Phase}
    (hp : Plan.resolve q.requested q.profile.selectors = .ok plan)
    (hr : (q.run launcher clock files).outcome = .ok r) :
    let cs := calls q.profile.program launcher.completion 0 (Plan.steps plan)
    r.IsSeen launcher false [log .debug (planMessage q plan)]
      (failureLines cs ++ closing q (verdictOf (ending cs)).status cs.length)
      (q.run launcher clock files).trace := by
  intro cs
  have hk := (Plan.exists_resolve_eq_ok_iff _ _).mp ⟨plan, hp⟩
  obtain ⟨-, htrace, hm, hrr⟩ := run_trace hq hp hr
  refine ⟨?_, fun e he => ?_, ?_⟩
  · rw [htrace, flatMap_events_calls, flatMap_seen_of_calls hm]
    simp [cs]
  · simp only [List.mem_append, List.mem_singleton] at he
    rcases he with rfl | he | he
    · exact isPlain_of_ne_info (by decide) _
    · exact isPlain_of_mem_failureLines he
    · exact isPlain_of_mem_closing (fun _ => hk) he
  · have hstatus : (ending cs).toList.length = if r.status = "FAILED" then 1 else 0 := by
      rw [hrr]
      rcases ending_cases cs with h | ⟨c, -, -, h⟩ <;>
        simp [cs, h, receiptOf, receipt, Status.text]
    rw [Trace.errors_append, Trace.errors_append, errors_closing, List.append_nil,
      errors_of_ne_error (by decide), List.length_append, length_errors_failureLines, hstatus]
    simp [Trace.errors, Trace.records]

theorem exists_run_isSeen (hr : (q.run launcher clock files).outcome = .ok r) :
    ∃ head tail, r.IsSeen launcher q.dryRun head tail (q.run launcher clock files).trace := by
  cases hp : Plan.resolve q.requested q.profile.selectors with
  | error e => exact ⟨_, _, run_isSeen_of_unknown hp hr q.dryRun⟩
  | ok plan =>
    cases hq : q.dryRun with
    | true => exact ⟨_, _, run_isSeen_of_dryRun hq hp hr⟩
    | false => exact ⟨_, _, run_isSeen_of_real hq hp hr⟩

end Run

/-! ### Records of the log -/

namespace Trace

theorem commandLines_of_isPlain {t : Trace} (h : ∀ e ∈ t, e.IsPlain) : t.commandLines = [] := by
  refine commandLines_eq_nil fun record hr => ?_
  obtain ⟨e, he, hrecord⟩ := List.mem_filterMap.mp hr
  obtain ⟨record', rfl, -, hplain⟩ := h e he
  obtain rfl := Option.some.inj hrecord
  exact hplain

theorem source_of_isPlain {t : Trace} (h : ∀ e ∈ t, e.IsPlain) :
    ∀ record ∈ t.records, record.source = .runner := by
  intro record hr
  obtain ⟨e, he, hrecord⟩ := List.mem_filterMap.mp hr
  obtain ⟨record', rfl, hsource, -⟩ := h e he
  obtain rfl := Option.some.inj hrecord
  exact hsource

end Trace

section Seen

variable {launcher : Launcher} {dryRun : Bool}

theorem InvocationRecord.records_seen (i : Nat) (record : InvocationRecord) :
    (record.seen launcher dryRun i).records =
      ⟨.info, .runner, record.announcement⟩ ::
        if dryRun then [] else (launcher i record.command).events.records := by
  cases dryRun <;> rfl

theorem InvocationRecord.commandLines_seen (h : dryRun = true ∨ launcher.LogsAsItself) (i : Nat)
    (record : InvocationRecord) :
    (record.seen launcher dryRun i).commandLines = [record.announcement] := by
  rw [seen, Run.commandLines_info, if_pos (by simp [announcement])]
  cases dryRun with
  | true => rfl
  | false => simp [(h.resolve_left (by decide)).commandLines]

theorem Trace.commandLines_flatMap_seen (h : dryRun = true ∨ launcher.LogsAsItself)
    (records : List InvocationRecord) (i : Nat) :
    Trace.commandLines
        ((records.zipIdx i).flatMap fun (record, i) => record.seen launcher dryRun i) =
      records.map (·.announcement) := by
  induction records generalizing i with
  | nil => rfl
  | cons record records ih =>
    rw [List.zipIdx_cons, List.flatMap_cons, Trace.commandLines_append,
      InvocationRecord.commandLines_seen h, ih]
    rfl

/-- Records of another kind than announcements have do not come from what is seen of records,
unless a launch gives them. -/
theorem Trace.filter_records_flatMap_seen (launcher : Launcher) (dryRun : Bool)
    (p : LogRecord → Bool)
    (hinfo : ∀ message, p ⟨.info, .runner, message⟩ = false)
    (h : dryRun = true ∨ ∀ i command, ∀ r ∈ (launcher i command).events.records, p r = false)
    (records : List InvocationRecord) (i : Nat) :
    (Trace.records
      ((records.zipIdx i).flatMap fun (record, i) => record.seen launcher dryRun i)).filter p =
        [] := by
  induction records generalizing i with
  | nil => rfl
  | cons record records ih =>
    have hseen : (record.seen launcher dryRun i).records.filter p = [] := by
      rw [InvocationRecord.records_seen, List.filter_cons_of_neg (by simp [hinfo])]
      cases dryRun with
      | true => rfl
      | false =>
        rw [if_neg (by decide), List.filter_eq_nil_iff]
        intro r hr
        simp [h.resolve_left (by decide) i record.command r hr]
    rw [List.zipIdx_cons, List.flatMap_cons, Trace.records_append, List.filter_append, ih, hseen,
      List.append_nil]

end Seen

namespace Receipt.IsSeen

variable {r : Receipt} {launcher : Launcher} {dryRun : Bool} {head tail t : Trace}

theorem commandLines_eq (h : r.IsSeen launcher dryRun head tail t)
    (hl : dryRun = true ∨ launcher.LogsAsItself) :
    t.commandLines = r.invocations.map (·.announcement) := by
  obtain ⟨hhead, htail⟩ := List.forall_mem_append.mp h.isPlain
  rw [h.trace_eq, Trace.commandLines_append, Trace.commandLines_append,
    Trace.commandLines_of_isPlain hhead, Trace.commandLines_of_isPlain htail, List.nil_append,
    List.append_nil, Trace.commandLines_flatMap_seen hl]

theorem length_errors_eq (h : r.IsSeen launcher dryRun head tail t)
    (hl : dryRun = true ∨ launcher.LogsNoErrors) :
    t.errors.length = if r.status = "FAILED" then 1 else 0 := by
  have hseen : Trace.errors (r.invocations.zipIdx.flatMap fun (record, i) =>
      record.seen launcher dryRun i) = [] :=
    Trace.filter_records_flatMap_seen launcher dryRun (·.level = .error) (by simp)
      (hl.imp_right fun hl i command r hr => by simpa using hl i command r hr) r.invocations 0
  rw [h.trace_eq, Trace.errors_append, Trace.errors_append, hseen, List.append_nil,
    ← Trace.errors_append, h.length_errors]

theorem length_runnerErrors_eq (h : r.IsSeen launcher dryRun head tail t)
    (hl : dryRun = true ∨ launcher.LogsAsItself) :
    t.runnerErrors.length = if r.status = "FAILED" then 1 else 0 := by
  have hseen : Trace.runnerErrors (r.invocations.zipIdx.flatMap fun (record, i) =>
      record.seen launcher dryRun i) = [] := by
    rw [Trace.runnerErrors, Trace.errors, List.filter_filter]
    exact Trace.filter_records_flatMap_seen launcher dryRun
      (fun record => record.source = .runner && record.level = .error) (by simp)
      (hl.imp_right fun hl i command r hr => by simp [hl i command r hr]) r.invocations 0
  have hall : (head ++ tail).runnerErrors = (head ++ tail).errors := by
    refine List.filter_eq_self.mpr fun record hr => ?_
    simp [Trace.source_of_isPlain h.isPlain record (List.mem_filter.mp hr).1]
  rw [h.trace_eq, Trace.runnerErrors_append, Trace.runnerErrors_append, hseen, List.append_nil,
    ← Trace.runnerErrors_append, hall, h.length_errors]

end Receipt.IsSeen

/-- The log tells what was run: the trace is what is seen of the records, in order and each
announced first, between lines that announce nothing; the lines that announce are those of the
records, in order, and give back their commands; and there is one error if the run has failed, and
none else. The launcher may log too, as itself and without errors. -/
structure Run.Report.TellsCommands (report : Run.Report) (launcher : Launcher) (dryRun : Bool)
    (r : Receipt) : Prop where
  isSeen : ∃ head tail, r.IsSeen launcher dryRun head tail report.trace
  announces : ∀ record ∈ r.invocations, ∃ text,
    record.announcement = "[" ++ record.target ++ "] " ++ text ∧
      ShellWord.split? text = some record.command
  commandLines_eq : dryRun = true ∨ launcher.LogsAsItself →
    report.trace.commandLines = r.invocations.map (·.announcement)
  length_runnerErrors : dryRun = true ∨ launcher.LogsAsItself →
    report.trace.runnerErrors.length = if r.status = "FAILED" then 1 else 0
  length_errors : dryRun = true ∨ launcher.LogsNoErrors →
    report.trace.errors.length = if r.status = "FAILED" then 1 else 0

/-- Whatever the program and the selectors are and however the run ends, if it gives a receipt, the
log tells what was run. -/
theorem Request.run_tellsCommands {q : Request} {launcher : Launcher} {clock : Clock}
    {files : FileTree} {r : Receipt} (hr : (q.run launcher clock files).outcome = .ok r) :
    (q.run launcher clock files).TellsCommands launcher q.dryRun r := by
  obtain ⟨head, tail, h⟩ := Run.exists_run_isSeen hr
  exact ⟨⟨head, tail, h⟩, fun record _ => record.exists_split?_announcement, h.commandLines_eq,
    h.length_runnerErrors_eq, h.length_errors_eq⟩

/-- The program and the selectors need quotes, and the second command fails. -/
theorem Request.run_tellsCommands_quotes :
    let profile : Profile :=
      ⟨"/opt/my cargo", "it's \"new\"\n", "überstabil", "all", by decide, by decide, by decide⟩
    let q : Request := { names := ["build", "test"], profile := profile }
    let launcher : Launcher := .processes { capture := true }
      [⟨.completed 0 [0x6f, 0x6b] [], 0.5, 0.75⟩, ⟨.completed 101 [] [0xff], 0.5, 0.75⟩]
    let report := q.run launcher (fun _ => 0) .empty
    ∃ r, report.outcome = .ok r ∧ r.status = "FAILED" ∧ report.TellsCommands launcher false r ∧
      report.trace.errors.length = 1 ∧
      report.trace.commandLines =
        ["[build] '/opt/my cargo' '+it'\"'\"'s \"new\"\n' build",
          "[build] '/opt/my cargo' '+überstabil' build"] := by
  intro profile q launcher report
  have hstatus : report.outcome.map (·.status) = .ok "FAILED" := by decide +kernel
  cases hr : report.outcome with
  | error fault => simp [hr, Except.map] at hstatus
  | ok r =>
    have hfailed : r.status = "FAILED" := by simpa [hr, Except.map] using hstatus
    have htells := Request.run_tellsCommands hr
    have herrors := htells.length_errors (.inr (Launcher.processes_logsNoErrors _ _))
    rw [if_pos hfailed] at herrors
    exact ⟨r, rfl, hfailed, htells, herrors, by decide +kernel⟩

end DualToolchain
