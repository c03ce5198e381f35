import DualToolchain.Proofs.Run.Account
import DualToolchain.Proofs.Timestamp

/-! The times of a receipt. A run reads its clock when it starts and when it ends, and the texts of
the two readings compare as the readings do. -/

namespace DualToolchain

/-- A receipt tells the first and the second reading of the clock, however the run ended. -/
theorem Run.run_times {q : Request} {launcher : Launcher} {clock : Clock} {files : FileTree}
    {r : Receipt} (h : (q.run launcher clock files).outcome = .ok r) :
    r.startedAt = Timestamp.text (clock 0) ∧ r.finishedAt = some (Timestamp.text (clock 1)) := by
  rcases run_cases h with ⟨e, -, -, rfl⟩ | ⟨plan, -, -, -, rfl⟩
  · exact ⟨rfl, rfl⟩
  · rw [receiptOf_eq]
    exact ⟨rfl, rfl⟩

namespace Timestamp

/-- Texts of the years 1 to 9999 sort as their times, and a text tells its time. So the receipt of a
run whose clock does not go back has its start no later than its end, also as texts, and has them
equal exactly if the readings are. -/
theorem text_sorts :
    (∀ a b, InYears a → InYears b → a < b → text a < text b) ∧
    (∀ a, InYears a → read? (text a) = some a) ∧
    ∀ (q : Request) (launcher : Launcher) (clock : Clock) (files : FileTree) (r : Receipt),
      (q.run launcher clock files).outcome = .ok r → InYears (clock 0) → InYears (clock 1) →
      clock 0 ≤ clock 1 → ∃ finished, r.finishedAt = some finished ∧
        read? r.startedAt = some (clock 0) ∧ read? finished = some (clock 1) ∧
        r.startedAt ≤ finished ∧ (r.startedAt = finished ↔ clock 0 = clock 1) := by
  refine ⟨fun a b ha hb => text_lt ha hb, fun a ha => read?_text ha, ?_⟩
  intro q launcher clock files r hr h0 h1 hle
  obtain ⟨hstarted, hfinished⟩ := Run.run_times hr
  refine ⟨text (clock 1), hfinished, ?_, read?_text h1, ?_, ?_⟩
  · rw [hstarted]
    exact read?_text h0
  · rw [hstarted]
    rcases Int.lt_or_eq_of_le hle with hlt | heq
    · exact Std.le_of_lt (text_lt h0 h1 hlt)
    · have hsame : text (clock 0) = text (clock 1) := congrArg text heq
      generalize text (clock 0) = started at hsame ⊢
      subst hsame
      exact String.le_refl _
  · rw [hstarted]
    constructor
    · intro heq
      have hread := read?_text h0
      rw [heq, read?_text h1] at hread
      exact (Option.some.inj hread).symm
    · exact congrArg text

/-- The last second of 1969 with a fraction and without, in a run that reads one and the other. -/
theorem text_sorts_fraction :
    let clock := Clock.ofList [-1000000, -1]
    let q : Request := { names := ["build"] }
    let report := q.run (.prepared []) clock .empty
    InYears (clock 0) ∧ InYears (clock 1) ∧ clock 0 ≤ clock 1 ∧ clock 0 < clock 1 ∧
      text (clock 0) = "1969-12-31T23:59:59+00:00" ∧
      text (clock 1) = "1969-12-31T23:59:59.999999+00:00" ∧ text (clock 0) < text (clock 1) ∧
      read? (text (clock 1)) = some (-1) ∧
      ∃ r finished, report.outcome = .ok r ∧ r.finishedAt = some finished ∧
        r.startedAt ≤ finished ∧ r.startedAt ≠ finished := by
  intro clock q report
  have h0 : InYears (clock 0) := by decide
  have h1 : InYears (clock 1) := by decide
  have hlt : clock 0 < clock 1 := by decide
  have hle : clock 0 ≤ clock 1 := by decide
  obtain ⟨hsorts, hread, hrun⟩ := text_sorts
  have hok : report.outcome.isOk = true := by decide +kernel
  cases hr : report.outcome with
  | error fault => simp [hr, Except.isOk, Except.toBool] at hok
  | ok r =>
    obtain ⟨finished, hfinished, -, -, hordered, heq⟩ := hrun q _ clock _ r hr h0 h1 hle
    refine ⟨h0, h1, hle, hlt, by decide +kernel, by decide +kernel, hsorts _ _ h0 h1 hlt,
      hread _ h1, r, finished, rfl, hfinished, hordered, fun h => ?_⟩
    exact absurd (heq.mp h) (by decide)

end Timestamp

end DualToolchain
