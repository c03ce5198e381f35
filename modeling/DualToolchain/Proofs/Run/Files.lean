import DualToolchain.Proofs.Run.Logs

/-! Runs of one request on different files. A run looks at its files only where it writes, so it
does the same on other files as long as its writers do. How the files are related may change from
one use to the next; it only has to be kept by the writers. -/

namespace DualToolchain

open FileTree RunDirectory

def RunState.on (st : RunState) (files : FileTree) : RunState :=
  { st with files := files }

def Run.Report.on (report : Run.Report) (files : FileTree) : Run.Report :=
  { report with files := files }

/-- Two writers gave the same and left related files. -/
structure RunDirectory.Written.Related {α : Type} (R : FileTree → FileTree → Prop)
    (written written' : Written α) : Prop where
  result_eq : written'.result = written.result
  files : R written.files written'.files

namespace Run

/-- The same came of steps on related files. -/
def Related (R : FileTree → FileTree → Prop) (taken taken' : RunState × Option Stop) : Prop :=
  ∃ files, taken' = (taken.1.on files, taken.2) ∧ R taken.1.files files

variable {q : Request} {dir : Path} {launcher : Launcher} {clock : Clock} {st : RunState}
  {files : FileTree} {R : FileTree → FileTree → Prop}

theorem conclude_related {s : Step} {c : Completion}
    (h : (saveStreams q st.files st.records.length s c).Related R
      (saveStreams q files st.records.length s c)) :
    Related R (conclude q st s c) (conclude q (st.on files) s c) := by
  refine ⟨(saveStreams q files st.records.length s c).files, ?_, ?_⟩
  · simp only [conclude, RunState.on, h.result_eq]
    split
    · rfl
    · split_ifs <;> rfl
  · rw [conclude_files]
    exact h.files

/-- A step does the same if the streams of its call, where there is one, are saved alike. -/
theorem step_related {s : Step} (h : R st.files files)
    (hsave : ∀ c trace, step q launcher st s = conclude q { st with trace := trace } s c →
      (saveStreams q st.files st.records.length s c).Related R
        (saveStreams q files st.records.length s c)) :
    Related R (step q launcher st s) (step q launcher (st.on files) s) := by
  simp only [step, RunState.on] at hsave ⊢
  split_ifs with hdry
  · exact ⟨files, rfl, h⟩
  · cases ha : (launcher st.records.length (s.invocation.command q.profile.program)).answer with
    | error fault => exact ⟨files, rfl, h⟩
    | ok c =>
      simp only [ha] at hsave ⊢
      exact conclude_related (hsave c _ (if_neg hdry))

/-- Steps do the same if each of them does. What is allowed of steps has to be allowed of the state
that they begin with. -/
theorem steps_related {P : RunState × Option Stop → Prop}
    (hstep : ∀ st s files, P (step q launcher st s) → R st.files files →
      Related R (step q launcher st s) (step q launcher (st.on files) s))
    (hbegin : ∀ st ss, P (steps q launcher st ss) → P (st, none)) (ss : List Step)
    (hp : P (steps q launcher st ss)) (h : R st.files files) :
    Related R (steps q launcher st ss) (steps q launcher (st.on files) ss) := by
  induction ss generalizing st files with
  | nil => exact ⟨files, rfl, h⟩
  | cons s rest ih =>
    have hfirst := hstep st s files
    rw [steps, steps] at *
    generalize step q launcher st s = taken at hfirst hp ⊢
    obtain ⟨st', _ | stop⟩ := taken
    · obtain ⟨files', heq, h'⟩ := hfirst (hbegin st' rest hp) h
      rw [heq]
      exact ih hp h'
    · obtain ⟨files', heq, h'⟩ := hfirst hp h
      rw [heq]
      exact ⟨files', rfl, h'⟩

theorem finish_on (hd : q.outputDir = some dir) {status : Status} {reasons : List Reason}
    {exitCode : Int} (h :
      let r := receipt q clock st.records status reasons exitCode
      (writeReceipt files dir r).result = (writeReceipt st.files dir r).result) :
    finish q clock (st.on files) status reasons exitCode =
      (finish q clock st status reasons exitCode).on
        (writeReceipt files dir (receipt q clock st.records status reasons exitCode)).files := by
  simp only [finish, hd, RunState.on, Report.on, h]
  split <;> rfl

end Run

end DualToolchain
