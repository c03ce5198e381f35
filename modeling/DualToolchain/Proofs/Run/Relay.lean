import DualToolchain.Proofs.Launcher
import DualToolchain.Proofs.Program
import DualToolchain.Proofs.Run.Trace

/-! What a run over processes passes on. On standard output and standard error are the bytes that
the processes have left, in the order of the launches and each process by itself; the one thing
added is the line that tells why the last of them could not be started. -/

namespace DualToolchain

/-! ### Traces -/

namespace Trace

/-- What a trace shows beside the lines of the log: the commands that were launched and the bytes on
both streams. -/
structure Shows (t : Trace) (commands : List (List String)) (out err : List UInt8) : Prop where
  commands_eq : t.commands = commands
  stdout_eq : t.stdout = out
  stderr_eq : ∀ time, t.stderr none time = err

namespace Shows

variable {t t' : Trace} {commands commands' : List (List String)} {out err out' err' : List UInt8}

theorem nil : Shows [] [] [] [] :=
  ⟨rfl, rfl, fun _ => rfl⟩

theorem append (h : t.Shows commands out err) (h' : t'.Shows commands' out' err') :
    (t ++ t').Shows (commands ++ commands') (out ++ out') (err ++ err') where
  commands_eq := by rw [Trace.commands_append, h.commands_eq, h'.commands_eq]
  stdout_eq := by rw [Trace.stdout, List.flatMap_append, ← h.stdout_eq, ← h'.stdout_eq]; rfl
  stderr_eq time := by
    rw [Trace.stderr, List.flatMap_append, ← h.stderr_eq time, ← h'.stderr_eq time]
    rfl

theorem flatMap {α : Type} {f : α → Trace} {commands : α → List (List String)}
    {out err : α → List UInt8} (xs : List α)
    (h : ∀ x ∈ xs, (f x).Shows (commands x) (out x) (err x)) :
    Shows (xs.flatMap f) (xs.flatMap commands) (xs.flatMap out) (xs.flatMap err) := by
  induction xs with
  | nil => exact .nil
  | cons x xs ih =>
    obtain ⟨hx, hxs⟩ := List.forall_mem_cons.mp h
    exact hx.append (ih hxs)

theorem cons_log (h : t.Shows commands out err) (r : LogRecord) :
    Shows (.log r :: t) commands out err :=
  ⟨h.commands_eq, h.stdout_eq, h.stderr_eq⟩

theorem of_logs (h : ∀ e ∈ t, ∃ r, e = .log r) : t.Shows [] [] [] := by
  induction t with
  | nil => exact .nil
  | cons e t ih =>
    obtain ⟨⟨r, rfl⟩, ht⟩ := List.forall_mem_cons.mp h
    exact (ih ht).cons_log r

theorem append_logs (h : t.Shows commands out err) (h' : ∀ e ∈ t', ∃ r, e = .log r) :
    (t ++ t').Shows commands out err := by
  have hshows := h.append (of_logs h')
  simp only [List.append_nil] at hshows
  exact hshows

end Shows

end Trace

/-! ### One launch -/

namespace ProcessSettings

variable {s : ProcessSettings} {program : String} {arguments : List String} {r : ProcessRun}
  {c : Completion}

theorem relayed_nil (s : ProcessSettings) : s.relayed [] = [] := by
  unfold relayed
  split_ifs <;> rfl

/-- What is seen of a launch that is answered: the output of the process as it was captured, and
the line on a process that could not be started. -/
theorem run_shows (h : (s.run (program :: arguments) r).answer = .ok c) :
    (s.run (program :: arguments) r).events.Shows [program :: arguments]
      (s.relayed (s.captured r.outcome.stdout))
      (s.relayed (s.captured r.outcome.stderr) ++
        Utf8.encode (r.outcome.failureLine program)) := by
  obtain ⟨program', arguments', hcommand, hcases⟩ := run_cases h
  obtain ⟨rfl, rfl⟩ := List.cons.inj hcommand
  have hempty : Utf8.encode "" = [] := rfl
  rcases hcases with ⟨out, err, message, ho, -, -, hevents⟩ | ⟨f, ho, -, -, herr, hevents⟩
  · rw [ho, hevents]
    refine ⟨rfl, ?_, fun time => ?_⟩
    · simp [Trace.stdout, Event.outBytes, ProcessOutcome.stdout]
    · simp [Trace.stderr, Event.errBytes, ProcessOutcome.stderr, ProcessOutcome.failureLine, hempty]
  · rw [ho, hevents, herr]
    refine ⟨rfl, ?_, fun time => ?_⟩
    · simp [Trace.stdout, Event.outBytes, ProcessOutcome.stdout, captured_nil, relayed_nil]
    · simp [Trace.stderr, Event.errBytes, ProcessOutcome.stderr, ProcessOutcome.failureLine,
        captured_nil, relayed_nil]

end ProcessSettings

namespace Run

/-! ### All calls -/

variable {q : Request} {s : ProcessSettings} {runs : List ProcessRun} {program : String}
  {clock : Clock} {files : FileTree} {r : Receipt}

def Call.outcome (runs : List ProcessRun) (c : Call) : ProcessOutcome :=
  (ProcessRun.nth runs c.index).outcome

/-- Around the launch of a call there are only lines of the log. -/
theorem Call.shows {c : Call} (h : c.IsAnswered program (.processes s runs)) :
    (c.events program (.processes s runs)).Shows [c.command program]
      (s.relayed (s.captured (c.outcome runs).stdout))
      (s.relayed (s.captured (c.outcome runs).stderr) ++
        Utf8.encode ((c.outcome runs).failureLine program)) := by
  refine ((ProcessSettings.run_shows h).cons_log _).append_logs ?_
  split_ifs <;> simp [log]

theorem Call.contents {c : Call} (h : c.IsAnswered program (.processes s runs)) :
    c.completion.stdout = Utf8.decode (s.captured (c.outcome runs).stdout) ∧
    c.completion.stderr = Utf8.decode (s.captured (c.outcome runs).stderr) ++
      (c.outcome runs).failureLine program ∧
    ∀ f, c.outcome runs = .failed f → c.completion.exitCode ≠ 0 := by
  obtain ⟨program', arguments, hcommand, hcontents⟩ := ProcessSettings.run_contents h
  obtain ⟨rfl, -⟩ := List.cons.inj hcommand
  exact hcontents

/-- The calls stand at their places, and all but the last one succeeded. -/
def InOrder (cs : List Call) : Prop :=
  ∀ (i : Nat) (c : Call), cs[i]? = some c →
    c.index = i ∧ (i + 1 < cs.length → c.completion.exitCode = 0)

theorem inOrder_calls (program : String) (answer : Nat → List String → Completion)
    (ss : List Step) : InOrder (calls program answer 0 ss) := by
  intro i c h
  obtain ⟨-, hindex, -, hok⟩ := getElem?_calls h
  exact ⟨by omega, hok⟩

theorem InOrder.exitCode_of_mem_dropLast {cs : List Call} (h : InOrder cs) {c : Call}
    (hc : c ∈ cs.dropLast) : c.completion.exitCode = 0 := by
  obtain ⟨i, hi⟩ := List.mem_iff_getElem?.mp hc
  rw [List.getElem?_dropLast] at hi
  split_ifs at hi with hlt
  exact (h i c hi).2 (by omega)

theorem run_shows_calls {plan : List Phase} (hq : q.dryRun = false)
    (hp : Plan.resolve q.requested q.profile.selectors = .ok plan)
    (hr : (q.run (.processes s runs) clock files).outcome = .ok r) :
    let cs := calls q.profile.program (Launcher.processes s runs).completion 0 (Plan.steps plan)
    (q.run (.processes s runs) clock files).trace.Shows (cs.map (·.command q.profile.program))
      (cs.flatMap fun c => s.relayed (s.captured (c.outcome runs).stdout))
      (cs.flatMap fun c => s.relayed (s.captured (c.outcome runs).stderr) ++
        Utf8.encode ((c.outcome runs).failureLine q.profile.program)) := by
  intro cs
  obtain ⟨hanswered, htrace, -⟩ := run_trace hq hp hr
  have hcalls := Trace.Shows.flatMap cs fun c hc => Call.shows (hanswered c hc)
  rw [htrace, List.map_eq_flatMap]
  exact (hcalls.cons_log _).append_logs fun _ => exists_log_of_mem_closing

/-- What is seen of a run over processes that gives a receipt is what its calls show, each of them
answered at its place and all but the last a success. A run that launches nothing has no calls. -/
theorem exists_calls_shows (hr : (q.run (.processes s runs) clock files).outcome = .ok r) :
    ∃ cs : List Call, (∀ c ∈ cs, c.IsAnswered q.profile.program (.processes s runs)) ∧
      InOrder cs ∧
      (q.run (.processes s runs) clock files).trace.Shows (cs.map (·.command q.profile.program))
        (cs.flatMap fun c => s.relayed (s.captured (c.outcome runs).stdout))
        (cs.flatMap fun c => s.relayed (s.captured (c.outcome runs).stderr) ++
          Utf8.encode ((c.outcome runs).failureLine q.profile.program)) := by
  cases hp : Plan.resolve q.requested q.profile.selectors with
  | error e =>
    refine ⟨[], by simp, by simp [InOrder], ?_⟩
    rw [run_trace_of_unknown hp hr]
    exact (Trace.Shows.nil.cons_log _).append_logs fun _ => exists_log_of_mem_closing
  | ok plan =>
    cases hq : q.dryRun with
    | true =>
      refine ⟨[], by simp, by simp [InOrder], ?_⟩
      rw [(run_trace_of_dryRun hq hp hr).1]
      exact (Trace.Shows.of_logs (by simp [log])).append_logs fun _ => exists_log_of_mem_closing
    | false =>
      obtain ⟨hanswered, -⟩ := run_trace hq hp hr
      have horder := inOrder_calls q.profile.program (Launcher.processes s runs).completion
        (Plan.steps plan)
      exact ⟨_, hanswered, horder, run_shows_calls hq hp hr⟩

/-! ### The whole run -/

/-- How the processes that a trace has started came out, in the order of their launches. -/
def launchedOutcomes (runs : List ProcessRun) (t : Trace) : List ProcessOutcome :=
  (List.range t.commands.length).map fun i => (ProcessRun.nth runs i).outcome

/-- The results that a launcher has given for the launches of a trace, in their order. -/
def launchedResults (launcher : Launcher) (t : Trace) : List Completion :=
  t.commands.zipIdx.map fun (command, i) => launcher.completion i command

/-- The line that tells why the last process could not be started; nothing if it ran. -/
def lastFailureLine (program : String) (os : List ProcessOutcome) : String :=
  (os.getLast?.map (·.failureLine program)).getD ""

structure Relays (s : ProcessSettings) (program : String) (runs : List ProcessRun) (t : Trace) :
    Prop where
  head?_eq : ∀ command ∈ t.commands, command.head? = some program
  answered : ∀ i command, t.commands[i]? = some command →
    (Launcher.processes s runs i command).answer =
      .ok ((Launcher.processes s runs).completion i command)
  /-- Only the last process may have failed to start. -/
  started : ∀ o ∈ (launchedOutcomes runs t).dropLast, ∀ f, o ≠ .failed f
  /-- Streams that take bytes get the captured bytes. -/
  bytes : s.capture = true → s.textOnly = false →
    t.stdout = (launchedOutcomes runs t).flatMap (·.stdout) ∧
    ∀ time, t.stderr none time = (launchedOutcomes runs t).flatMap (·.stderr) ++
      Utf8.encode (lastFailureLine program (launchedOutcomes runs t))
  /-- Streams that take text get the captured bytes of each process decoded, which are the texts of
  the results. -/
  text : s.capture = true → s.textOnly = true →
    (t.stdout = (launchedOutcomes runs t).flatMap fun o => Utf8.encode (Utf8.decode o.stdout)) ∧
    (∀ time, t.stderr none time =
      ((launchedOutcomes runs t).flatMap fun o => Utf8.encode (Utf8.decode o.stderr)) ++
        Utf8.encode (lastFailureLine program (launchedOutcomes runs t))) ∧
    (t.stdout = (launchedResults (.processes s runs) t).flatMap fun c => Utf8.encode c.stdout) ∧
    ∀ time, t.stderr none time =
      (launchedResults (.processes s runs) t).flatMap fun c => Utf8.encode c.stderr
  /-- Without capturing nothing is passed on. -/
  through : s.capture = false → t.stdout = [] ∧ ∀ time, t.stderr none time =
    Utf8.encode (lastFailureLine program (launchedOutcomes runs t))

/-- What only the last of a list may add comes at the end. -/
theorem flatMap_append_of_dropLast {α β : Type} (a b : α → List β) {xs : List α}
    (h : ∀ x ∈ xs.dropLast, b x = []) :
    (xs.flatMap fun x => a x ++ b x) = xs.flatMap a ++ (xs.getLast?.map b).getD [] := by
  rcases List.eq_nil_or_concat xs with rfl | ⟨front, last, rfl⟩
  · rfl
  · rw [List.concat_eq_append, List.dropLast_concat] at h
    have hfront : (front.flatMap fun x => a x ++ b x) = front.flatMap a :=
      congrArg List.flatten (List.map_congr_left fun x hx => by rw [h x hx, List.append_nil])
    simp [hfront]

/-- The lines on processes that could not be started come to that of the last one. -/
theorem flatMap_failureLine {os : List ProcessOutcome} (a : ProcessOutcome → List UInt8)
    (h : ∀ o ∈ os.dropLast, ∀ f, o ≠ .failed f) :
    (os.flatMap fun o => a o ++ Utf8.encode (o.failureLine program)) =
      os.flatMap a ++ Utf8.encode (lastFailureLine program os) := by
  rw [flatMap_append_of_dropLast, lastFailureLine]
  · cases os.getLast? <;> rfl
  · intro o ho
    cases o with
    | failed f => exact absurd rfl (h _ ho f)
    | completed => rfl
    | rejected => rfl

section Relays

variable {cs : List Call} {t : Trace} (horder : InOrder cs)
  (hcommands : t.commands = cs.map (·.command program))
include horder hcommands

theorem launchedOutcomes_of_calls : launchedOutcomes runs t = cs.map (Call.outcome runs) := by
  refine List.ext_getElem? fun i => ?_
  rw [launchedOutcomes, hcommands, List.length_map, List.getElem?_map, List.getElem?_map]
  cases hc : cs[i]? with
  | none => simp [List.getElem?_eq_none_iff.mp hc]
  | some c =>
    have hlt := (List.getElem?_eq_some_iff.mp hc).1
    simp [hlt, Call.outcome, (horder i c hc).1]

theorem launchedResults_of_calls
    (hanswered : ∀ c ∈ cs, c.IsAnswered program (.processes s runs)) :
    launchedResults (.processes s runs) t = cs.map (·.completion) := by
  refine List.ext_getElem? fun i => ?_
  rw [launchedResults, hcommands, List.getElem?_map, List.getElem?_map, List.getElem?_zipIdx,
    List.getElem?_map]
  cases hc : cs[i]? with
  | none => rfl
  | some c =>
    have hindex := (horder i c hc).1
    have ha := Launcher.completion_of_ok (hanswered c (List.mem_of_getElem? hc))
    rw [hindex] at ha
    simp [ha]

omit hcommands in
/-- Only the last of the processes may have failed to start. -/
theorem started_of_calls (hanswered : ∀ c ∈ cs, c.IsAnswered program (.processes s runs)) :
    ∀ o ∈ (cs.map (Call.outcome runs)).dropLast, ∀ f, o ≠ .failed f := by
  rw [← List.map_dropLast]
  intro o ho f hf
  obtain ⟨c, hc, rfl⟩ := List.mem_map.mp ho
  obtain ⟨-, -, hfailed⟩ := Call.contents (hanswered c (List.dropLast_subset _ hc))
  exact hfailed f hf (horder.exitCode_of_mem_dropLast hc)

theorem relays_of_calls (hanswered : ∀ c ∈ cs, c.IsAnswered program (.processes s runs))
    (hout : t.stdout = cs.flatMap fun c => s.relayed (s.captured (c.outcome runs).stdout))
    (herr : ∀ time, t.stderr none time = cs.flatMap fun c =>
      s.relayed (s.captured (c.outcome runs).stderr) ++
        Utf8.encode ((c.outcome runs).failureLine program)) :
    Relays s program runs t := by
  have houtcomes : launchedOutcomes runs t = cs.map (Call.outcome runs) :=
    launchedOutcomes_of_calls horder hcommands
  have hresults := launchedResults_of_calls horder hcommands hanswered
  have hstarted := started_of_calls horder hanswered
  rw [← houtcomes] at hstarted
  have hflat : ∀ f : ProcessOutcome → List UInt8,
      (cs.flatMap fun c => f (c.outcome runs)) = (launchedOutcomes runs t).flatMap f := by
    intro f
    rw [houtcomes, List.flatMap_map]
  have hout' := hout.trans (hflat fun o => s.relayed (s.captured o.stdout))
  have herr' := fun time => ((herr time).trans (hflat fun o => s.relayed (s.captured o.stderr) ++
    Utf8.encode (o.failureLine program))).trans (flatMap_failureLine _ hstarted)
  refine ⟨?heads, ?answered, hstarted, fun hc ht => ?bytes, fun hc ht => ?text, fun hc => ?through⟩
  case heads =>
    rw [hcommands]
    intro command hm
    obtain ⟨c, -, rfl⟩ := List.mem_map.mp hm
    rfl
  case answered =>
    intro i command hi
    rw [hcommands, List.getElem?_map, Option.map_eq_some_iff] at hi
    obtain ⟨c, hc, rfl⟩ := hi
    have ha := hanswered c (List.mem_of_getElem? hc)
    rw [Call.IsAnswered, (horder i c hc).1] at ha
    rw [Launcher.completion_of_ok ha]
    exact ha
  case bytes =>
    simpa [ProcessSettings.relayed, ProcessSettings.captured, hc, ht] using And.intro hout' herr'
  case text =>
    have hresult : ∀ c ∈ cs,
        s.relayed (s.captured (c.outcome runs).stdout) = Utf8.encode c.completion.stdout ∧
        s.relayed (s.captured (c.outcome runs).stderr) ++
          Utf8.encode ((c.outcome runs).failureLine program) =
            Utf8.encode c.completion.stderr := by
      intro c hm
      obtain ⟨hstdout, hstderr, -⟩ := Call.contents (hanswered c hm)
      simp [ProcessSettings.relayed, ht, hstdout, hstderr, Utf8.encode, Utf8.encodeChars]
    refine ⟨?_, ?_, ?_, fun time => ?_⟩
    · simpa [ProcessSettings.relayed, ProcessSettings.captured, hc, ht] using hout'
    · simpa [ProcessSettings.relayed, ProcessSettings.captured, hc, ht] using herr'
    · rw [hout, hresults, List.flatMap_map]
      exact congrArg List.flatten (List.map_congr_left fun c hm => (hresult c hm).1)
    · rw [herr, hresults, List.flatMap_map]
      exact congrArg List.flatten (List.map_congr_left fun c hm => (hresult c hm).2)
  case through =>
    have hnil : ((launchedOutcomes runs t).flatMap fun _ => ([] : List UInt8)) = [] :=
      List.flatMap_eq_nil_iff.mpr fun _ _ => rfl
    simpa [ProcessSettings.captured, hc, ProcessSettings.relayed_nil, hnil]
      using And.intro hout' herr'

end Relays

theorem run_relays (hr : (q.run (.processes s runs) clock files).outcome = .ok r) :
    Relays s q.profile.program runs (q.run (.processes s runs) clock files).trace := by
  obtain ⟨cs, hanswered, horder, hshows⟩ := exists_calls_shows hr
  exact relays_of_calls horder hshows.commands_eq hanswered hshows.stdout_eq hshows.stderr_eq

end Run

/-- A run over processes that gives a receipt passes on what they left, in the order of the
launches: the captured bytes or their texts, and nothing if they were not captured, but for the line
on a last process that could not be started. The program writes just that on standard output when it
returns from a run. -/
theorem Run.processes_relay :
    (∀ (q : Request) (s : ProcessSettings) (runs : List ProcessRun) (clock : Clock)
      (files : FileTree) (r : Receipt),
      (q.run (.processes s runs) clock files).outcome = .ok r →
        Run.Relays s q.profile.program runs (q.run (.processes s runs) clock files).trace) ∧
    ∀ (w : World) (argv : List String) (args : CommandLine.Arguments) (code : Int),
      CommandLine.parse argv = .arguments args → args.list = false →
      (Program.run w argv).ending = .returned code →
        ∃ settings profile,
          Settings.read w.environment (Program.envFileText w.files) = .ok settings ∧
          settings.profile = .ok profile ∧
          let s := Program.processSettings w args settings
          let report := Program.report w args settings profile
          s.capture = args.capture.getD settings.capture ∧ s.textOnly = w.textOnly ∧
          (∃ r, report.outcome = .ok r ∧ r.exitCode = code) ∧
          Run.Relays s profile.program w.processes report.trace ∧
          (Program.run w argv).stdout = report.trace.stdout := by
  refine ⟨fun q s runs clock files r hr => Run.run_relays hr, ?_⟩
  intro w argv args code hargs hlist hreturned
  obtain ⟨settings, profile, hsettings, hprofile, -, ⟨r, hr, hcode⟩, htrace, -⟩ :=
    Program.run_of_returned hargs hlist hreturned
  refine ⟨settings, profile, hsettings, hprofile, rfl, rfl, ⟨r, hr, hcode⟩, Run.run_relays hr, ?_⟩
  have herrLines : ∀ lines, Trace.stdout (Program.errLines lines) = [] := by
    intro lines
    rw [Trace.stdout, List.flatMap_eq_nil_iff]
    intro e he
    obtain ⟨line, -, rfl⟩ := List.mem_map.mp he
    rfl
  rw [Program.Result.stdout, htrace, Trace.stdout, List.flatMap_append]
  exact congrArg (· ++ _) (herrLines _)

/-- A character is cut in two by the end of the first process, and the second one cannot be
started. -/
theorem Run.processes_relay_cut :
    let runs : List ProcessRun :=
      [⟨.completed 0 [0x62, 0xc3] [0xff], 0.5, 0.75⟩, ⟨.failed (.notFound "gone"), 0.5, 0.75⟩]
    let s : ProcessSettings := { capture := true }
    let report := Request.run { names := ["build"] } (.processes s runs) (fun _ => 0) .empty
    let w : World :=
      { environment := []
        files := .empty
        processes := runs
        textOnly := true
        clock := fun _ => 0 }
    let args : CommandLine.Arguments := { targets := ["build"], capture := some true }
    let result := Program.run w ["build", "--capture"]
    report.outcome.map (·.exitCode) = .ok 127 ∧ report.trace.stdout = [0x62, 0xc3] ∧
      (∀ time, report.trace.stderr none time = [0xff] ++ Utf8.encode "cargo: gone\n") ∧
      CommandLine.parse ["build", "--capture"] = .arguments args ∧ args.list = false ∧
      result.ending = .returned 127 ∧ result.stdout = Utf8.encode "b\uFFFD" ∧
      ∃ settings profile, result.stdout = (Program.report w args settings profile).trace.stdout ∧
        Run.Relays (Program.processSettings w args settings) profile.program runs
          (Program.report w args settings profile).trace := by
  intro runs s report w args result
  have hcode : report.outcome.map (·.exitCode) = .ok 127 := by decide +kernel
  have houtcomes : Run.launchedOutcomes runs report.trace = runs.map (·.outcome) := by
    decide +kernel
  have hargs : CommandLine.parse ["build", "--capture"] = .arguments args := by decide +kernel
  have hreturned : result.ending = .returned 127 := by decide +kernel
  have hstdout : result.stdout = Utf8.encode "b\uFFFD" := by decide +kernel
  obtain ⟨hrun, hprogram⟩ := Run.processes_relay
  obtain ⟨settings, profile, -, -, -, -, -, hrelays, htrace⟩ :=
    hprogram w _ args 127 hargs rfl hreturned
  cases hr : report.outcome with
  | error fault =>
    rw [hr] at hcode
    contradiction
  | ok r =>
    obtain ⟨hout, herr⟩ := (hrun _ s runs _ _ r hr).bytes rfl rfl
    rw [hr] at hcode
    refine ⟨hcode, ?_, fun time => ?_, hargs, rfl, hreturned, hstdout, settings, profile, htrace,
      hrelays⟩
    · rw [hout, houtcomes]
      rfl
    · rw [herr, houtcomes]
      rfl

end DualToolchain
