import DualToolchain.Proofs.FileTree.Contents
import DualToolchain.Proofs.Run.Files

/-! Runs do not read files. On two trees that are the same but for the content of one file a run
launches, logs and records the same, and leaves them the same but for that file. -/

namespace DualToolchain

open FileTree RunDirectory

/-! ### The writers -/

namespace RunDirectory

variable {t t' : FileTree} {l : Location}

theorem writeStream_sameBut (h : SameBut l t t') (dir : Path) (name content : String) :
    (writeStream t dir name content).Related (SameBut l) (writeStream t' dir name content) := by
  simp only [writeStream]
  split_ifs
  · exact ⟨rfl, h⟩
  · have hw := h.writeFile ((logsDir dir).child name) (Utf8.encode content)
    generalize t.writeFile ((logsDir dir).child name) (Utf8.encode content) = written,
      t'.writeFile ((logsDir dir).child name) (Utf8.encode content) = written' at hw
    cases hw with
    | error fault => exact ⟨rfl, h⟩
    | ok h' => cases ((logsDir dir).child name).relativeTo? dir <;> exact ⟨rfl, h'⟩

theorem writeLogs_sameBut (h : SameBut l t t') (dir : Path) (stem stdout stderr : String) :
    (writeLogs t dir stem stdout stderr).Related (SameBut l)
      (writeLogs t' dir stem stdout stderr) := by
  obtain ⟨hfault, h₁⟩ := h.makeDirectories (logsDir dir)
  simp only [writeLogs]
  generalize t.makeDirectories (logsDir dir) = made, t'.makeDirectories (logsDir dir) = made'
    at hfault h₁
  obtain ⟨t₁, fault⟩ := made
  obtain ⟨t₁', fault'⟩ := made'
  obtain rfl : fault' = fault := hfault
  cases fault' with
  | some fault => exact ⟨rfl, h₁⟩
  | none =>
    obtain ⟨hout, h₂⟩ := writeStream_sameBut h₁ dir (stem ++ ".stdout") stdout
    simp only
    generalize writeStream t₁ dir (stem ++ ".stdout") stdout = out,
      writeStream t₁' dir (stem ++ ".stdout") stdout = out' at hout h₂
    obtain ⟨t₂, result⟩ := out
    obtain ⟨t₂', result'⟩ := out'
    obtain rfl : result' = result := hout
    cases result' with
    | error fault => exact ⟨rfl, h₂⟩
    | ok path =>
      obtain ⟨herr, h₃⟩ := writeStream_sameBut h₂ dir (stem ++ ".stderr") stderr
      simp only
      generalize writeStream t₂ dir (stem ++ ".stderr") stderr = err,
        writeStream t₂' dir (stem ++ ".stderr") stderr = err' at herr h₃
      obtain ⟨t₃, result⟩ := err
      obtain ⟨t₃', result'⟩ := err'
      obtain rfl : result' = result := herr
      cases result' <;> exact ⟨rfl, h₃⟩

theorem writeReceipt_sameBut (h : SameBut l t t') (dir : Path) (r : Receipt) :
    (writeReceipt t dir r).Related (SameBut l) (writeReceipt t' dir r) := by
  obtain ⟨hfault, h₁⟩ := h.makeDirectories dir
  simp only [writeReceipt]
  generalize t.makeDirectories dir = made, t'.makeDirectories dir = made' at hfault h₁
  obtain ⟨t₁, fault⟩ := made
  obtain ⟨t₁', fault'⟩ := made'
  obtain rfl : fault' = fault := hfault
  cases fault' with
  | some fault => exact ⟨rfl, h₁⟩
  | none =>
    have hw := h₁.writeFile (dir.child receiptName) (Utf8.encode r.document)
    simp only
    generalize t₁.writeFile (dir.child receiptName) (Utf8.encode r.document) = written,
      t₁'.writeFile (dir.child receiptName) (Utf8.encode r.document) = written' at hw
    cases hw with
    | error fault => exact ⟨rfl, h₁⟩
    | ok h₂ => exact ⟨rfl, h₂⟩

end RunDirectory

/-! ### Runs -/

namespace Run

variable {q : Request} {launcher : Launcher} {clock : Clock} {l : Location}

theorem saveStreams_sameBut {t t' : FileTree} (h : SameBut l t t') (index : Nat) (s : Step)
    (c : Completion) :
    (saveStreams q t index s c).Related (SameBut l) (saveStreams q t' index s c) := by
  simp only [saveStreams]
  cases q.outputDir with
  | none => exact ⟨rfl, h⟩
  | some dir =>
    simp only
    split_ifs
    · exact ⟨rfl, h⟩
    · exact writeLogs_sameBut h dir _ _ _

theorem steps_sameBut {st : RunState} {files : FileTree} (h : SameBut l st.files files)
    (ss : List Step) :
    Related (SameBut l) (steps q launcher st ss) (steps q launcher (st.on files) ss) :=
  steps_related (P := fun _ => True)
    (fun _ s _ _ h => step_related h fun c _ _ => saveStreams_sameBut h _ s c)
    (fun _ _ _ => trivial) ss trivial h

theorem finish_sameBut {st : RunState} {files : FileTree} (h : SameBut l st.files files)
    (status : Status) (reasons : List Reason) (exitCode : Int) :
    ∃ files', finish q clock (st.on files) status reasons exitCode =
        (finish q clock st status reasons exitCode).on files' ∧
      SameBut l (finish q clock st status reasons exitCode).files files' := by
  cases hd : q.outputDir with
  | none =>
    refine ⟨files, ?_, ?_⟩
    · simp only [finish, hd, RunState.on, Report.on]
    · simpa only [finish, hd] using h
  | some dir =>
    have hw := writeReceipt_sameBut h dir (receipt q clock st.records status reasons exitCode)
    refine ⟨_, finish_on hd hw.result_eq, ?_⟩
    rw [finish_files hd]
    exact hw.files

/-- A run on trees that are the same but for the content of one file. -/
theorem run_sameBut {files files' : FileTree} (h : SameBut l files files') :
    ∃ files'', q.run launcher clock files' = (q.run launcher clock files).on files'' ∧
      SameBut l (q.run launcher clock files).files files'' := by
  unfold Request.run
  split
  · exact @finish_sameBut q clock l ⟨files, _, []⟩ files' h _ _ _
  · rename_i plan _
    obtain ⟨files₁, hsteps, h₁⟩ := @steps_sameBut q launcher l
      ⟨files, [log .debug (planMessage q plan)], []⟩ files' h (Plan.steps plan)
    simp only [RunState.on] at hsteps
    simp only [hsteps]
    generalize steps q launcher ⟨files, [log .debug (planMessage q plan)], []⟩ (Plan.steps plan) =
      taken at h₁ ⊢
    rcases taken with ⟨st, _ | ⟨reasons, code⟩ | fault⟩
    · exact finish_sameBut h₁ ..
    · exact finish_sameBut h₁ ..
    · exact ⟨files₁, rfl, h₁⟩

end Run

end DualToolchain
