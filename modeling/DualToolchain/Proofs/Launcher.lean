import DualToolchain.Proofs.Run.Account
import DualToolchain.Proofs.Verdict

/-! Launching processes. A process that ran, and one that the system refused to start, give a
completion; its verdict agrees with the raw bytes that the process wrote, though it is judged by the
decoded text. -/

namespace DualToolchain

/-- The launch came to something: the process ran or the system refused to start it, and the time
that this took is finite. -/
structure ProcessRun.IsAnswered (r : ProcessRun) : Prop where
  finite : ∃ ms, r.durationMs = .ok ms
  not_rejected : ∀ message, r.outcome ≠ .rejected message

/-- A launch between half and three quarters of a second takes 250 milliseconds. -/
theorem ProcessRun.durationMs_quarter (o : ProcessOutcome) :
    (ProcessRun.mk o 0.5 0.75).durationMs = .ok 250 := by
  have hfinite : Binary64.nonFinite? (((0.75 : Float) - 0.5) * 1000) = none := by decide +kernel
  have hms : Binary64.truncate (((0.75 : Float) - 0.5) * 1000) = 250 := by decide +kernel
  simp only [ProcessRun.durationMs, hfinite, hms]

def ProcessOutcome.exitCode : ProcessOutcome → Int
  | .completed returnCode _ _ => returnCode
  | .failed f => f.exitCode
  | .rejected _ => 0

/-- A process that could not be started never looks like a success. -/
theorem LaunchFailure.exitCode_ne_zero (f : LaunchFailure) : f.exitCode ≠ 0 := by
  unfold exitCode
  split <;> decide

/-! ### What a process leaves -/

namespace ProcessOutcome

def stdout : ProcessOutcome → List UInt8
  | .completed _ bytes _ => bytes
  | _ => []

def stderr : ProcessOutcome → List UInt8
  | .completed _ _ bytes => bytes
  | _ => []

/-- The line that tells why the process could not be started; nothing if it ran. -/
def failureLine (program : String) : ProcessOutcome → String
  | .failed f => program ++ ": " ++ f.cause ++ "\n"
  | _ => ""

theorem failureLine_eq_empty_iff (program : String) (o : ProcessOutcome) :
    o.failureLine program = "" ↔ ∀ f, o ≠ .failed f := by
  cases o with
  | failed f =>
    have hne : program ++ ": " ++ f.cause ++ "\n" ≠ "" := fun heq => by
      simpa using congrArg String.length heq
    simp [failureLine, hne]
  | completed => simp [failureLine]
  | rejected => simp [failureLine]

end ProcessOutcome

/-! ### Verdicts and bytes -/

/-- What the verdict on a launch says of the way the process came out: a success is a process that
returned zero; a missing toolchain is one that did not start, or that failed and of which the
captured bytes of standard error hold the mark; anything else is a failed invocation. -/
structure Verdict.Classifies (v : Verdict) (capture : Bool) (o : ProcessOutcome) : Prop where
  success_iff : v.status = .success ↔ ∃ stdout stderr, o = .completed 0 stdout stderr
  toolchainNotFound_iff : v.reasons = [.toolchainNotFound] ↔
    (∃ f, o = .failed f) ∨ ∃ returnCode stdout stderr, o = .completed returnCode stdout stderr ∧
      returnCode ≠ 0 ∧ capture = true ∧ HoldsMarkBytes stderr
  otherwise : v.status ≠ .success → v.reasons ≠ [.toolchainNotFound] →
    v.status = .failed ∧ v.reasons = [.invocationFailed]

namespace ProcessSettings

variable {s : ProcessSettings} {command : List String} {r : ProcessRun}

theorem run_of_completed (hc : command ≠ []) {returnCode : Int} {stdout stderr : List UInt8}
    (ho : r.outcome = .completed returnCode stdout stderr) {ms : Int}
    (hms : r.durationMs = .ok ms) :
    (s.run command r).answer = .ok ⟨returnCode, Utf8.decode (s.captured stdout),
      Utf8.decode (s.captured stderr), ms, none⟩ ∧
    (s.run command r).events.commands = [command] := by
  obtain ⟨program, arguments, rfl⟩ := List.exists_cons_of_ne_nil hc
  simp only [run, ho, hms]
  exact ⟨rfl, rfl⟩

theorem run_of_failed (hc : command ≠ []) {f : LaunchFailure} (ho : r.outcome = .failed f)
    {ms : Int} (hms : r.durationMs = .ok ms) :
    (∃ message, (s.run command r).answer =
      .ok ⟨f.exitCode, "", message ++ "\n", ms, some message⟩) ∧
    (s.run command r).events.commands = [command] := by
  obtain ⟨program, arguments, rfl⟩ := List.exists_cons_of_ne_nil hc
  simp only [run, ho, hms]
  exact ⟨⟨program ++ ": " ++ f.cause, rfl⟩, rfl⟩

/-- What an answer says: the process ran, and its captured output was passed on and decoded; or it
did not start, and the one line on standard error that says so is the answer's. -/
theorem run_cases {c : Completion} (h : (s.run command r).answer = .ok c) :
    ∃ program arguments, command = program :: arguments ∧
      ((∃ stdout stderr message, r.outcome = .completed c.exitCode stdout stderr ∧
          c.stdout = Utf8.decode (s.captured stdout) ∧
          c.stderr = Utf8.decode (s.captured stderr) ∧
          (s.run command r).events = [.launch (s.launch command),
            .out (s.relayed (s.captured stdout)), .err (s.relayed (s.captured stderr)),
            .log ⟨.debug, .launcher, message⟩]) ∨
        ∃ f, r.outcome = .failed f ∧ c.exitCode = f.exitCode ∧ c.stdout = "" ∧
          c.stderr = program ++ ": " ++ f.cause ++ "\n" ∧
          (s.run command r).events =
            [.launch (s.launch command), .err (Utf8.encode c.stderr)]) := by
  unfold run at h ⊢
  cases ho : r.outcome with
  | rejected message => simp [ho] at h
  | failed f =>
    simp only [ho, failure] at h ⊢
    cases command with
    | nil => simp at h
    | cons program arguments =>
      cases hms : r.durationMs with
      | error fault => simp [hms] at h
      | ok ms =>
        simp only [hms] at h
        obtain rfl := Except.ok.inj h
        exact ⟨program, arguments, rfl, .inr ⟨f, rfl, rfl, rfl, rfl, rfl⟩⟩
  | completed returnCode stdout stderr =>
    simp only [ho] at h ⊢
    cases hms : r.durationMs with
    | error fault => simp [hms] at h
    | ok ms =>
      simp only [hms, completion] at h ⊢
      cases command with
      | nil => simp at h
      | cons program arguments =>
        obtain rfl := Except.ok.inj h
        exact ⟨program, arguments, rfl, .inl ⟨stdout, stderr, _, rfl, rfl, rfl, rfl⟩⟩

theorem captured_nil (s : ProcessSettings) : s.captured [] = [] := by
  unfold captured
  split_ifs <;> rfl

/-- What an answer holds: the output of the process as it was captured, decoded, and the line on a
process that could not be started, which is never a success. -/
theorem run_contents {c : Completion} (h : (s.run command r).answer = .ok c) :
    ∃ program arguments, command = program :: arguments ∧
      c.stdout = Utf8.decode (s.captured r.outcome.stdout) ∧
      c.stderr = Utf8.decode (s.captured r.outcome.stderr) ++ r.outcome.failureLine program ∧
      ∀ f, r.outcome = .failed f → c.exitCode ≠ 0 := by
  have hempty : Utf8.decode [] = "" := rfl
  obtain ⟨program, arguments, hcommand, ⟨out, err, message, ho, hout, herr, -⟩ |
    ⟨f, ho, hcode, hout, herr, -⟩⟩ := run_cases h
  · refine ⟨program, arguments, hcommand, ?_⟩
    rw [ho]
    exact ⟨hout, by simp [herr, ProcessOutcome.stderr, ProcessOutcome.failureLine], by simp⟩
  · refine ⟨program, arguments, hcommand, ?_⟩
    rw [ho]
    refine ⟨?_, ?_, fun _ _ => ?_⟩
    · simp [hout, ProcessOutcome.stdout, captured_nil, hempty]
    · simp [herr, ProcessOutcome.stderr, ProcessOutcome.failureLine, captured_nil, hempty]
    · rw [hcode]
      exact f.exitCode_ne_zero

/-- Of nothing that was not captured a mark is seen. -/
theorem holdsMark_captured_iff (s : ProcessSettings) (bytes : List UInt8) :
    holdsMark (Utf8.decode (s.captured bytes)).toList = true ↔
      s.capture = true ∧ HoldsMarkBytes bytes := by
  cases hcap : s.capture with
  | true => simp [captured, hcap, holdsMark_decode_iff]
  | false =>
    have hnil : holdsMark (Utf8.decode []).toList = false := rfl
    simp [captured, hcap, hnil]

/-- Every launch that came to something gives a completion, and its verdict agrees with the raw
bytes. -/
theorem run_classifies (s : ProcessSettings) (hc : command ≠ []) (hr : r.IsAnswered) :
    ∃ c, (s.run command r).answer = .ok c ∧ c.judge.Classifies s.capture r.outcome := by
  obtain ⟨⟨ms, hms⟩, hrej⟩ := hr
  cases ho : r.outcome with
  | rejected message => exact absurd ho (hrej message)
  | failed f =>
    obtain ⟨⟨message, ha⟩, -⟩ := run_of_failed (s := s) hc ho hms
    refine ⟨_, ha, ?_⟩
    have hj : Completion.judge ⟨f.exitCode, "", message ++ "\n", ms, some message⟩ =
        ⟨.failed, [.toolchainNotFound]⟩ := by
      simp [Completion.judge, f.exitCode_ne_zero]
    rw [hj]
    exact ⟨by simp, by simp, by simp⟩
  | completed returnCode stdout stderr =>
    refine ⟨_, (run_of_completed (s := s) hc ho hms).1, ?_⟩
    have hmark := s.holdsMark_captured_iff stderr
    by_cases h0 : returnCode = 0
    · subst h0
      exact ⟨by simp [Completion.judge], by simp [Completion.judge], by simp [Completion.judge]⟩
    · by_cases hm : s.capture = true ∧ HoldsMarkBytes stderr
      · simp only [Completion.judge, if_neg h0, hmark.mpr hm, Option.isSome_none, Bool.false_or,
          ↓reduceIte]
        exact ⟨by simp [h0], by simpa [h0] using hm, by simp⟩
      · have hnot : holdsMark (Utf8.decode (s.captured stderr)).toList = false := by
          simpa using fun h => hm (hmark.mp h)
        simp only [Completion.judge, if_neg h0, hnot, Option.isSome_none, Bool.or_self,
          Bool.false_eq_true, ↓reduceIte]
        exact ⟨by simp [h0], by simpa [h0] using hm, by simp⟩

/-- A mark between bytes that are no text, and with one that begins and ends in vain before it. -/
theorem run_classifies_mark :
    let stderr := [0xff, 0xc2] ++ Utf8.encode "toolchain '' toolchain 'to" ++ [0xe2, 0x82] ++
      Utf8.encode "' is not installed" ++ [0xf0]
    let r : ProcessRun := ⟨.completed 1 [] stderr, 0.5, 0.75⟩
    ["cargo"] ≠ [] ∧ r.IsAnswered ∧
      (∃ c, (ProcessSettings.run { capture := true } ["cargo"] r).answer = .ok c ∧
        c.judge.reasons = [.toolchainNotFound]) ∧
      ∃ c, (ProcessSettings.run { capture := false } ["cargo"] r).answer = .ok c ∧
        c.judge.reasons ≠ [.toolchainNotFound] := by
  intro stderr r
  have hr : r.IsAnswered :=
    ⟨⟨250, ProcessRun.durationMs_quarter _⟩, fun message h => by contradiction⟩
  have hmark : HoldsMarkBytes stderr :=
    ⟨[0xff, 0xc2] ++ Utf8.encode "toolchain '' ", Utf8.encode "to" ++ [0xe2, 0x82], [0xf0],
      by decide, by decide, by decide⟩
  have hne : ["cargo"] ≠ [] := by simp
  refine ⟨hne, hr, ?_, ?_⟩
  · obtain ⟨c, ha, hc⟩ := run_classifies { capture := true } hne hr
    exact ⟨c, ha, hc.toolchainNotFound_iff.mpr (.inr ⟨1, [], stderr, rfl, by simp, rfl, hmark⟩)⟩
  · obtain ⟨c, ha, hc⟩ := run_classifies { capture := false } hne hr
    refine ⟨c, ha, fun h => ?_⟩
    rcases hc.toolchainNotFound_iff.mp h with ⟨f, hf⟩ | ⟨code, out, err, -, -, hcap, -⟩ <;>
      contradiction

end ProcessSettings

/-! ### Answers to the calls of a run -/

/-- The process that is started by the call at a position. After the given ones all succeed in
silence. -/
def ProcessRun.nth (runs : List ProcessRun) (i : Nat) : ProcessRun :=
  runs[i]?.getD ⟨.completed 0 [] [], 0, 0⟩

theorem Launcher.processes_eq (s : ProcessSettings) (runs : List ProcessRun) (i : Nat)
    (command : List String) :
    Launcher.processes s runs i command = s.run command (ProcessRun.nth runs i) := rfl

theorem ProcessRun.isAnswered_silent : (ProcessRun.mk (.completed 0 [] []) 0 0).IsAnswered := by
  have hfinite : Binary64.nonFinite? (((0 : Float) - 0) * 1000) = none := by decide +kernel
  refine ⟨⟨Binary64.truncate ((0 - 0) * 1000), ?_⟩, fun message h => by contradiction⟩
  simp only [durationMs, hfinite]

section Processes

variable {s : ProcessSettings} {runs : List ProcessRun}

theorem ProcessSettings.run_answer (s : ProcessSettings) {command : List String}
    (hc : command ≠ []) {r : ProcessRun} (hr : r.IsAnswered) :
    (s.run command r).events.commands = [command] ∧
      ∃ c, (s.run command r).answer = .ok c ∧ c.exitCode = r.outcome.exitCode := by
  obtain ⟨⟨ms, hms⟩, hrej⟩ := hr
  cases ho : r.outcome with
  | rejected message => exact absurd ho (hrej message)
  | failed f =>
    obtain ⟨⟨message, ha⟩, hcommands⟩ := run_of_failed (s := s) hc ho hms
    exact ⟨hcommands, _, ha, rfl⟩
  | completed returnCode stdout stderr =>
    obtain ⟨ha, hcommands⟩ := run_of_completed (s := s) hc ho hms
    exact ⟨hcommands, _, ha, rfl⟩

theorem ProcessRun.isAnswered_getD (h : ∀ r ∈ runs, r.IsAnswered) (i : Nat) :
    (runs[i]?.getD ⟨.completed 0 [] [], 0, 0⟩).IsAnswered := by
  cases hi : runs[i]? with
  | none => exact isAnswered_silent
  | some r => exact h r (List.mem_of_getElem? hi)

theorem Launcher.processes_answers (h : ∀ r ∈ runs, r.IsAnswered) :
    (Launcher.processes s runs).Answers (Launcher.processes s runs).completion := by
  constructor
  all_goals
    intro i command hc
    obtain ⟨hcommands, c, ha, -⟩ := s.run_answer hc (ProcessRun.isAnswered_getD h i)
  · have hi : (Launcher.processes s runs i command).answer = .ok c := ha
    rw [completion, hi]
  · exact hcommands

/-- The exit codes of processes do not depend on how they are started. -/
theorem Launcher.processes_exitCode (h : ∀ r ∈ runs, r.IsAnswered) (i : Nat)
    {command : List String} (hc : command ≠ []) :
    ((Launcher.processes s runs).completion i command).exitCode =
      ((runs.map ProcessRun.outcome)[i]?.getD (.completed 0 [] [])).exitCode := by
  obtain ⟨-, c, ha, hcode⟩ := s.run_answer hc (ProcessRun.isAnswered_getD h i)
  have hi : (Launcher.processes s runs i command).answer = .ok c := ha
  rw [completion, hi, hcode, List.getElem?_map]
  cases runs[i]? <;> rfl

end Processes

end DualToolchain
