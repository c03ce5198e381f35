import DualToolchain.Plan

/-! Resolving a request. It fails at the first name that is not in the table, and else gives one
phase for each leaf, with one invocation for each selector. -/

namespace DualToolchain

/-- The name stands for nothing in the table. -/
def Target.IsUnknown (name : String) : Prop :=
  Target.ofName? name = none

instance (name : String) : Decidable (Target.IsUnknown name) :=
  inferInstanceAs (Decidable (_ = none))

theorem Target.get_eq_error_iff (name : String) (e : UnknownTarget) :
    Target.get name = .error e ↔ Target.IsUnknown name ∧ e = ⟨name⟩ := by
  unfold Target.get Target.IsUnknown
  split
  · next t h => simp [h]
  · next h => simp [h, eq_comm]

namespace Plan

/-- The error names the first unknown name of the request. -/
theorem targets_eq_error_iff (names : List String) (e : UnknownTarget) :
    targets names = .error e ↔ names.find? (Target.IsUnknown ·) = some e.name := by
  induction names with
  | nil => simp [targets]
  | cons name rest ih =>
    rw [targets]
    cases h : Target.get name with
    | error e' =>
      obtain ⟨hu, rfl⟩ := (Target.get_eq_error_iff name e').mp h
      rw [List.find?_cons_of_pos (by simpa using hu)]
      cases e
      simp
    | ok t =>
      have hu : ¬ Target.IsUnknown name := fun hu => by
        have := (Target.get_eq_error_iff name ⟨name⟩).mpr ⟨hu, rfl⟩
        rw [h] at this
        contradiction
      rw [List.find?_cons_of_neg (by simpa using hu), ← ih]
      cases targets rest <;> simp [Except.map]

theorem resolve_eq_error_iff (names selectors : List String) (e : UnknownTarget) :
    resolve names selectors = .error e ↔ names.find? (Target.IsUnknown ·) = some e.name := by
  rw [← targets_eq_error_iff, resolve]
  cases targets names <;> simp [Except.map]

theorem exists_resolve_eq_ok_iff (names selectors : List String) :
    (∃ plan, resolve names selectors = .ok plan) ↔ ∀ name ∈ names, ¬ Target.IsUnknown name := by
  have hf : (∀ name ∈ names, ¬ Target.IsUnknown name) ↔
      names.find? (Target.IsUnknown ·) = none := by simp
  rw [hf]
  cases h : resolve names selectors with
  | error e => simp [(resolve_eq_error_iff names selectors e).mp h]
  | ok plan =>
    cases hn : names.find? (Target.IsUnknown ·) with
    | none => simp
    | some name =>
      rw [(resolve_eq_error_iff names selectors ⟨name⟩).mpr hn] at h
      contradiction

/-- A phase holds the invocations of its leaf, one for each selector in order. -/
theorem invocations_of_resolve {names selectors : List String} {plan : List Phase}
    (h : resolve names selectors = .ok plan) :
    ∀ p ∈ plan, p.invocations = selectors.map p.leaf.invocation := by
  rw [resolve] at h
  cases ht : targets names with
  | error e => simp [ht, Except.map] at h
  | ok ts =>
    simp only [ht, Except.map, Except.ok.injEq] at h
    subst h
    intro p hp
    obtain ⟨l, -, rfl⟩ := List.mem_map.mp hp
    rfl

end Plan

end DualToolchain
