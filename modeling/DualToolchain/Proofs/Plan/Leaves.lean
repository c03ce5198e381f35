import DualToolchain.Proofs.Plan
import Mathlib.Tactic.Common

/-! The leaves of a request. Its names stand for leaves in order, and the plan takes each leaf at
its first occurrence. So a composite may be replaced by its steps, a name whose leaves all come
earlier adds nothing, and a leaf that a composite brings in comes after the one before it. -/

namespace DualToolchain

theorem Target.get_name (t : Target) : Target.get t.name = .ok t := by
  rcases t with (_ | _) | (_ | _ | _ | _) <;> rfl

theorem Composite.steps_ne_nil (c : Composite) : c.steps ≠ [] := by
  cases c <;> decide

theorem Target.leaves_ne_nil (t : Target) : t.leaves ≠ [] := by
  cases t with
  | composite c => exact c.steps_ne_nil
  | leaf l => exact List.cons_ne_nil l []

namespace Plan

/-! ### First occurrences -/

theorem mem_firstOccurrences (l : Leaf) (ls : List Leaf) : l ∈ firstOccurrences ls ↔ l ∈ ls := by
  induction ls with
  | nil => simp [firstOccurrences]
  | cons x xs ih =>
    rw [firstOccurrences, List.mem_cons, List.mem_cons, List.mem_filter, ih]
    by_cases h : l = x
    · simp [h]
    · simp [h]

/-- Of a list behind another one, the leaves stay that are not in the first. -/
theorem firstOccurrences_append (xs ys : List Leaf) :
    firstOccurrences (xs ++ ys) =
      firstOccurrences xs ++ (firstOccurrences ys).filter (· ∉ xs) := by
  induction xs with
  | nil =>
    rw [List.nil_append, firstOccurrences, List.nil_append]
    exact (List.filter_eq_self.mpr (by simp)).symm
  | cons x xs ih =>
    rw [List.cons_append, firstOccurrences, firstOccurrences, ih, List.filter_append,
      List.filter_filter, List.cons_append]
    congr 2
    apply List.filter_congr
    intro l _
    by_cases h : l = x
    · simp [h]
    · simp [h]

theorem firstOccurrences_append_of_subset {xs ys : List Leaf} (h : ∀ l ∈ ys, l ∈ xs) :
    firstOccurrences (xs ++ ys) = firstOccurrences xs := by
  have hnone : (firstOccurrences ys).filter (· ∉ xs) = [] := by
    rw [List.filter_eq_nil_iff]
    intro l hl
    simpa using h l ((mem_firstOccurrences l ys).mp hl)
  rw [firstOccurrences_append, hnone, List.append_nil]

theorem firstOccurrences_append_append_of_subset {xs ys : List Leaf} (h : ∀ l ∈ ys, l ∈ xs)
    (zs : List Leaf) : firstOccurrences (xs ++ ys ++ zs) = firstOccurrences (xs ++ zs) := by
  rw [firstOccurrences_append (xs ++ ys), firstOccurrences_append_of_subset h,
    firstOccurrences_append xs zs]
  congr 1
  apply List.filter_congr
  intro l _
  have hiff : l ∈ xs ++ ys ↔ l ∈ xs := by
    rw [List.mem_append]
    exact ⟨fun hl => hl.elim id (h l), .inl⟩
  simp only [hiff]

/-! ### Names -/

theorem targets_append (xs ys : List String) :
    targets (xs ++ ys) = (targets xs).bind fun ts => (targets ys).map (ts ++ ·) := by
  induction xs with
  | nil => cases h : targets ys <;> simp [targets, Except.bind, Except.map, h]
  | cons x xs ih =>
    rw [List.cons_append, targets, targets]
    cases Target.get x with
    | error e => rfl
    | ok t =>
      rw [ih]
      cases targets xs with
      | error e => rfl
      | ok ts => cases targets ys <;> rfl

/-- The leaves that names stand for, repetitions included. -/
def leaves (names : List String) : Except UnknownTarget (List Leaf) :=
  (targets names).map (·.flatMap Target.leaves)

theorem resolve_eq_map_leaves (names selectors : List String) :
    resolve names selectors =
      (leaves names).map fun ls => (firstOccurrences ls).map (phase selectors) := by
  rw [resolve, leaves]
  cases targets names <;> rfl

theorem leaves_append (xs ys : List String) :
    leaves (xs ++ ys) = (leaves xs).bind fun ls => (leaves ys).map (ls ++ ·) := by
  rw [leaves, targets_append, leaves, leaves]
  cases targets xs with
  | error e => rfl
  | ok ts =>
    cases targets ys with
    | error e => rfl
    | ok us => exact congrArg Except.ok List.flatMap_append

@[simp] theorem leaves_target (t : Target) : leaves [t.name] = .ok t.leaves := by
  simp [leaves, targets, Target.get_name, Except.map]

theorem leaves_map_name (ls : List Leaf) : leaves (ls.map Leaf.name) = .ok ls := by
  induction ls with
  | nil => rfl
  | cons l ls ih =>
    have hl : leaves [l.name] = .ok [l] := leaves_target (.leaf l)
    rw [List.map_cons, ← List.singleton_append, leaves_append, hl, ih]
    rfl

/-- One of the names stands for the leaf, perhaps among others. -/
def Expands (names : List String) (l : Leaf) : Prop :=
  ∃ name ∈ names, ∃ t, Target.ofName? name = some t ∧ l ∈ t.leaves

theorem ne_nil_of_expands {names : List String} {t : Target}
    (h : ∀ l ∈ t.leaves, Expands names l) : names ≠ [] := by
  rintro rfl
  obtain ⟨l, hl⟩ := List.exists_mem_of_ne_nil t.leaves t.leaves_ne_nil
  obtain ⟨name, hname, -⟩ := h l hl
  exact absurd hname List.not_mem_nil

theorem mem_leaves_iff {names : List String} {ls : List Leaf} (h : leaves names = .ok ls)
    (l : Leaf) : l ∈ ls ↔ Expands names l := by
  induction names generalizing ls with
  | nil =>
    obtain rfl := Except.ok.inj h
    simp [Expands]
  | cons name rest ih =>
    rw [← List.singleton_append, leaves_append] at h
    cases ht : Target.ofName? name with
    | none => simp [leaves, targets, Target.get, ht, Except.map, Except.bind] at h
    | some t =>
      have hname : leaves [name] = .ok t.leaves := by
        simp [leaves, targets, Target.get, ht, Except.map]
      rw [hname] at h
      cases hrest : leaves rest with
      | error e => simp [hrest, Except.map, Except.bind] at h
      | ok ls' =>
        rw [hrest] at h
        obtain rfl : t.leaves ++ ls' = ls := Except.ok.inj h
        rw [List.mem_append, ih hrest]
        simp [Expands, ht]

/-! ### Plans -/

theorem resolve_congr {names names' : List String} (h : leaves names = leaves names')
    (before after selectors : List String) :
    resolve (before ++ names ++ after) selectors =
      resolve (before ++ names' ++ after) selectors := by
  rw [resolve_eq_map_leaves, resolve_eq_map_leaves, leaves_append, leaves_append before, h,
    leaves_append (before ++ names'), leaves_append before]

theorem resolve_composite (before after selectors : List String) (c : Composite) :
    resolve (before ++ c.name :: after) selectors =
      resolve (before ++ c.steps.map Leaf.name ++ after) selectors := by
  have hc : leaves [c.name] = leaves (c.steps.map Leaf.name) :=
    (leaves_target (.composite c)).trans (leaves_map_name c.steps).symm
  rw [← resolve_congr hc, List.append_assoc, List.singleton_append]

/-- A name adds nothing if the names before it stand for all of its leaves. -/
theorem resolve_of_expands {before : List String} {t : Target}
    (h : ∀ l ∈ t.leaves, Expands before l) (after selectors : List String) :
    resolve (before ++ t.name :: after) selectors = resolve (before ++ after) selectors := by
  rw [resolve_eq_map_leaves, resolve_eq_map_leaves, ← List.singleton_append,
    ← List.append_assoc, leaves_append, leaves_append, leaves_append before after, leaves_target]
  cases hb : leaves before with
  | error e => rfl
  | ok ls =>
    cases leaves after with
    | error e => rfl
    | ok ms =>
      have hsub : ∀ l ∈ t.leaves, l ∈ ls := fun l hl => (mem_leaves_iff hb l).mpr (h l hl)
      have hfirst := firstOccurrences_append_append_of_subset hsub ms
      exact congrArg (fun ls => Except.ok (ls.map (phase selectors))) hfirst

/-- The second step of a composite that brings it into the plan comes after the first one. -/
theorem exists_resolve_eq_of_steps {before after selectors : List String} {c : Composite}
    {b t : Leaf} (hc : c.steps = [b, t]) (hbefore : ¬ Expands before t) {plan : List Phase}
    (h : resolve (before ++ c.name :: after) selectors = .ok plan) :
    ∃ early late, plan = (early ++ t :: late).map (phase selectors) ∧ b ∈ early ∧ t ∉ early := by
  have hne : t ≠ b := by
    rintro rfl
    cases c <;> simp only [Composite.steps, List.cons.injEq] at hc <;> grind
  have hleaves : leaves [c.name] = .ok [b, t] := hc ▸ leaves_target (.composite c)
  rw [resolve_eq_map_leaves, ← List.singleton_append, leaves_append, leaves_append, hleaves] at h
  cases hb : leaves before with
  | error e => simp [hb, Except.bind, Except.map] at h
  | ok ls =>
    cases ha : leaves after with
    | error e => simp [hb, ha, Except.bind, Except.map] at h
    | ok ms =>
      rw [hb, ha] at h
      have hplan : (firstOccurrences (ls ++ ([b, t] ++ ms))).map (phase selectors) = plan :=
        Except.ok.inj h
      have hsplit : ls ++ ([b, t] ++ ms) = ls ++ [b] ++ t :: ms := by simp
      have hnot : t ∉ ls ++ [b] := by
        simpa [hne] using fun ht => hbefore ((mem_leaves_iff hb t).mp ht)
      -- Of the leaves from `t` on, `t` itself is new.
      rw [hsplit, firstOccurrences_append, firstOccurrences,
        List.filter_cons_of_pos (by simpa using hnot)] at hplan
      refine ⟨_, _, hplan.symm, ?_, ?_⟩
      · rw [mem_firstOccurrences]
        simp
      · rwa [mem_firstOccurrences]

theorem steps_map_phase (selectors : List String) (ls : List Leaf) :
    steps (ls.map (phase selectors)) =
      ls.flatMap fun l => selectors.map fun s => ⟨l, l.invocation s⟩ := by
  rw [steps, List.flatMap_map]
  congr 1
  funext l
  rw [phase, Leaf.invocations, List.map_map]
  rfl

end Plan

end DualToolchain
