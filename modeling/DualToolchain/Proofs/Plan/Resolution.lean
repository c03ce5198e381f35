import DualToolchain.Proofs.Plan.Leaves
import Mathlib.Data.List.Induction
import Mathlib.Data.List.Nodup

/-! What a request is resolved to. The plan of known names has the leaves that they stand for, every
later repetition dropped. It may be grown name by name, phase by phase, with a look at the phases
that are there already; names may even be checked as they come, and the same one is refused. -/

namespace DualToolchain

theorem Leaf.name_injective : Function.Injective Leaf.name := by
  intro l l' h
  cases l <;> cases l' <;> first | rfl | exact absurd h (by decide)

theorem mem_map_name_iff (l : Leaf) (ls : List Leaf) : l.name ∈ ls.map Leaf.name ↔ l ∈ ls :=
  List.mem_map_of_injective Leaf.name_injective

namespace Target

def leafNames (name : String) : Except UnknownTarget (List String) :=
  (get name).map (·.leaves.map Leaf.name)

theorem isUnknown_iff (name : String) : IsUnknown name ↔ name ∉ names := by
  rw [IsUnknown, ofName?, List.find?_eq_none, names, List.mem_map]
  constructor
  · rintro h ⟨t, ht, rfl⟩
    exact h t ht (by simp)
  · intro h t ht hname
    exact h ⟨t, ht, by simpa using hname⟩

end Target

namespace Plan

variable {selectors : List String}

/-! ### First occurrences, from the front -/

theorem firstOccurrences_concat (ls : List Leaf) (l : Leaf) :
    firstOccurrences (ls ++ [l]) =
      if l ∈ ls then firstOccurrences ls else firstOccurrences ls ++ [l] := by
  rw [firstOccurrences_append]
  split_ifs with h <;> simp [firstOccurrences, h]

theorem nodup_firstOccurrences (ls : List Leaf) : (firstOccurrences ls).Nodup := by
  induction ls with
  | nil => exact List.nodup_nil
  | cons l ls ih =>
    rw [firstOccurrences, List.nodup_cons]
    exact ⟨by simp, ih.filter _⟩

theorem firstOccurrences_of_nodup {ls : List Leaf} (h : ls.Nodup) : firstOccurrences ls = ls := by
  induction ls with
  | nil => rfl
  | cons l ls ih =>
    obtain ⟨hl, hls⟩ := List.nodup_cons.mp h
    rw [firstOccurrences, ih hls, List.filter_eq_self.mpr]
    intro l' hl'
    simpa using fun heq : l' = l => hl (heq ▸ hl')

theorem map_name_firstOccurrences (ls : List Leaf) :
    (firstOccurrences ls).map Leaf.name = (ls.map Leaf.name).eraseDups := by
  induction ls using List.reverseRecOn with
  | nil => rfl
  | append_singleton ls l ih =>
    rw [firstOccurrences_concat, List.map_append, List.eraseDups_append, ← ih, List.removeAll,
      List.map_singleton]
    split_ifs with h
    · rw [List.filter_cons_of_neg (by simpa using (mem_map_name_iff l ls).mpr h)]
      simp
    · rw [List.filter_cons_of_pos (by simpa using mt (mem_map_name_iff l ls).mp h)]
      simp [List.eraseDups_cons]

/-! ### Growing -/

/-- The plan with one more phase, unless it has a phase of that leaf. -/
def add (plan : List Phase) (p : Phase) : List Phase :=
  if p.leaf ∈ plan.map (·.leaf) then plan else plan ++ [p]

def extend (selectors : List String) (plan : List Phase) (name : String) :
    Except UnknownTarget (List Phase) :=
  (ofName name selectors).map (·.foldl add plan)

theorem map_leaf_map_phase (selectors : List String) (ls : List Leaf) :
    (ls.map (phase selectors)).map (·.leaf) = ls := by
  rw [List.map_map]
  exact List.map_id ls

/-- The step: the plan of some leaves with a phase is the plan of one leaf more. -/
theorem add_phase (ls : List Leaf) (l : Leaf) :
    add ((firstOccurrences ls).map (phase selectors)) (phase selectors l) =
      (firstOccurrences (ls ++ [l])).map (phase selectors) := by
  rw [add, map_leaf_map_phase, firstOccurrences_concat]
  simp only [phase, mem_firstOccurrences]
  split_ifs
  · rfl
  · rw [List.map_append]
    rfl

theorem foldl_add_phases (ls ms : List Leaf) :
    (ms.map (phase selectors)).foldl add ((firstOccurrences ls).map (phase selectors)) =
      (firstOccurrences (ls ++ ms)).map (phase selectors) := by
  induction ms generalizing ls with
  | nil => rw [List.append_nil]; rfl
  | cons m ms ih =>
    rw [List.map_cons, List.foldl_cons, add_phase, ih, List.append_assoc, List.singleton_append]

/-- The plan of some leaves, grown by names, is that of the leaves with those of the names behind
them. -/
theorem foldlM_extend (names : List String) (ls : List Leaf) :
    names.foldlM (extend selectors) ((firstOccurrences ls).map (phase selectors)) =
      (leaves names).map fun ms => (firstOccurrences (ls ++ ms)).map (phase selectors) := by
  induction names generalizing ls with
  | nil => simp [leaves, targets, Except.map, pure, Except.pure]
  | cons name rest ih =>
    rw [List.foldlM_cons, ← List.singleton_append, leaves_append]
    cases ht : Target.get name with
    | error e => simp [extend, ofName, leaves, targets, ht, Except.map, Except.bind, bind]
    | ok t =>
      have hextend : extend selectors ((firstOccurrences ls).map (phase selectors)) name =
          .ok ((firstOccurrences (ls ++ t.leaves)).map (phase selectors)) := by
        rw [extend, ofName, ht, ← foldl_add_phases]
        rfl
      have hname : leaves [name] = .ok t.leaves := by
        simp [leaves, targets, ht, Except.map]
      rw [hextend, hname]
      refine (ih (ls ++ t.leaves)).trans ?_
      cases leaves rest with
      | error e => rfl
      | ok ms => simp [Except.map, Except.bind]

/-- A request that is read name by name has the same plan, or is refused for the same name. -/
theorem resolve_eq_foldlM (names selectors : List String) :
    resolve names selectors = names.foldlM (extend selectors) [] := by
  rw [resolve_eq_map_leaves]
  exact (foldlM_extend names []).symm

/-! ### The plan of a request -/

/-- Expanding the names one by one gives the leaves that all of them stand for, or is refused for the
same name. -/
theorem mapM_leafNames (names : List String) :
    (names.mapM Target.leafNames).map List.flatten = (leaves names).map (·.map Leaf.name) := by
  induction names with
  | nil => rfl
  | cons name rest ih =>
    rw [List.mapM_cons, ← List.singleton_append, leaves_append]
    cases ht : Target.get name with
    | error e => simp [Target.leafNames, leaves, targets, ht, Except.map, Except.bind, bind]
    | ok t =>
      have hname : leaves [name] = .ok t.leaves := by
        simp [leaves, targets, ht, Except.map]
      have hnames : Target.leafNames name = .ok (t.leaves.map Leaf.name) := by
        simp [Target.leafNames, ht, Except.map]
      rw [hname, hnames]
      cases hrest : leaves rest <;> cases hparts : rest.mapM Target.leafNames <;>
        simp_all [Except.map, Except.bind, bind, pure, Except.pure]

theorem map_name_map_phase (selectors : List String) (ls : List Leaf) :
    (ls.map (phase selectors)).map (·.leaf.name) = ls.map Leaf.name := by
  rw [List.map_map]
  rfl

/-- Of leaves behind others, those get a phase whose name no phase has. -/
theorem map_phase_append (selectors : List String) (ls ms : List Leaf) :
    let plan := (firstOccurrences ls).map (phase selectors)
    (firstOccurrences (ls ++ ms)).map (phase selectors) =
      plan ++ ((firstOccurrences ms).map (phase selectors)).filter fun p =>
        p.leaf.name ∉ plan.map (·.leaf.name) := by
  intro plan
  have hnames : plan.map (·.leaf.name) = (firstOccurrences ls).map Leaf.name :=
    map_name_map_phase selectors _
  rw [firstOccurrences_append, List.map_append, List.filter_map, hnames]
  congr 2
  apply List.filter_congr
  intro l _
  have hmem : l.name ∈ (firstOccurrences ls).map Leaf.name ↔ l ∈ ls := by
    rw [mem_map_name_iff, mem_firstOccurrences]
  simp only [Function.comp_apply, phase, hmem]

/-- Of two requests in one, the second adds the phases that the plan of the first does not have. -/
theorem resolve_append (xs ys selectors : List String) :
    resolve (xs ++ ys) selectors = (resolve xs selectors).bind fun plan =>
      (resolve ys selectors).map fun plan' =>
        plan ++ plan'.filter fun p => p.leaf.name ∉ plan.map (·.leaf.name) := by
  rw [resolve_eq_map_leaves, resolve_eq_map_leaves, resolve_eq_map_leaves, leaves_append]
  cases leaves xs with
  | error e => rfl
  | ok ls =>
    cases leaves ys with
    | error e => rfl
    | ok ms => exact congrArg Except.ok (map_phase_append selectors ls ms)

/-- The plan of a request with known names: the leaves they stand for, name by name and every later
repetition dropped, each with its invocations for the selectors in order. -/
structure IsPlanOf (plan : List Phase) (names selectors : List String) : Prop where
  targets_eq : ∃ parts, names.mapM Target.leafNames = .ok parts ∧
    plan.map (·.leaf.name) = parts.flatten.eraseDups
  nodup : (plan.map (·.leaf.name)).Nodup
  invocations_eq : ∀ p ∈ plan, p.invocations = selectors.map fun s =>
    ⟨s, p.leaf.operation, p.leaf.configuration, p.leaf.verbosity⟩

theorem isPlanOf_of_leaves {names : List String} {ls : List Leaf} (h : leaves names = .ok ls)
    (selectors : List String) :
    IsPlanOf ((firstOccurrences ls).map (phase selectors)) names selectors := by
  have hnames : (((firstOccurrences ls).map (phase selectors)).map (·.leaf.name)) =
      (ls.map Leaf.name).eraseDups := by
    rw [map_name_map_phase, map_name_firstOccurrences]
  refine ⟨?targets, ?nodup, ?invocations⟩
  case targets =>
    have hparts := mapM_leafNames names
    rw [h] at hparts
    cases hm : names.mapM Target.leafNames with
    | error e => simp [hm, Except.map] at hparts
    | ok parts =>
      rw [hm] at hparts
      have hflat : parts.flatten = ls.map Leaf.name := Except.ok.inj hparts
      exact ⟨parts, rfl, hflat ▸ hnames⟩
  case nodup =>
    rw [hnames, ← map_name_firstOccurrences]
    exact (nodup_firstOccurrences ls).map Leaf.name_injective
  case invocations =>
    intro p hp
    obtain ⟨l, -, rfl⟩ := List.mem_map.mp hp
    rfl

theorem exists_leaves_of_resolve {names selectors : List String} {plan : List Phase}
    (h : resolve names selectors = .ok plan) :
    ∃ ls, leaves names = .ok ls ∧ (firstOccurrences ls).map (phase selectors) = plan := by
  rw [resolve_eq_map_leaves] at h
  cases hl : leaves names with
  | error e => simp [hl, Except.map] at h
  | ok ls =>
    rw [hl] at h
    exact ⟨ls, rfl, Except.ok.inj h⟩

/-- The targets of a plan, asked for by their names, have that plan. -/
theorem resolve_targets {names selectors : List String} {plan : List Phase}
    (h : resolve names selectors = .ok plan) :
    resolve (plan.map (·.leaf.name)) selectors = .ok plan := by
  obtain ⟨ls, -, rfl⟩ := exists_leaves_of_resolve h
  rw [map_name_map_phase, resolve_eq_map_leaves, leaves_map_name]
  exact congrArg (fun ls => Except.ok (ls.map (phase selectors)))
    (firstOccurrences_of_nodup (nodup_firstOccurrences ls))

/-- A request is refused for the first of its names that is not in the table. All others have their
plan, and the targets of the plan have the same one. What is asked for in addition adds the phases
that are not there yet; so a plan grows name by name, phase by phase. -/
theorem resolve_isPlanOf (names selectors : List String) :
    (∀ e, resolve names selectors = .error e ↔ ∃ before after, names = before ++ e.name :: after ∧
      e.name ∉ Target.names ∧ ∀ name ∈ before, name ∈ Target.names) ∧
    ((∀ name ∈ names, name ∈ Target.names) → ∃ plan, resolve names selectors = .ok plan ∧
      IsPlanOf plan names selectors ∧ resolve (plan.map (·.leaf.name)) selectors = .ok plan) ∧
    (∀ more, resolve (names ++ more) selectors = (resolve names selectors).bind fun plan =>
      (resolve more selectors).map fun plan' =>
        plan ++ plan'.filter fun p => p.leaf.name ∉ plan.map (·.leaf.name)) ∧
    resolve names selectors = names.foldlM (extend selectors) [] := by
  refine ⟨fun e => ?refused, fun hnames => ?planned, fun more => resolve_append names more selectors,
    resolve_eq_foldlM names selectors⟩
  case refused =>
    rw [resolve_eq_error_iff, List.find?_eq_some_iff_append]
    simp [Target.isUnknown_iff, and_left_comm]
  case planned =>
    obtain ⟨plan, hplan⟩ := (exists_resolve_eq_ok_iff names selectors).mpr fun name hname =>
      not_not.mpr (hnames name hname) ∘ (Target.isUnknown_iff name).mp
    obtain ⟨ls, hleaves, rfl⟩ := exists_leaves_of_resolve hplan
    exact ⟨_, hplan, isPlanOf_of_leaves hleaves selectors, resolve_targets hplan⟩

/-- A composite comes behind its second step and before the first one, with one selector twice. -/
theorem resolve_isPlanOf_overlapping :
    let names := ["test", "all", "build", "test-release"]
    let selectors := ["stable", "stable"]
    (∀ name ∈ names, name ∈ Target.names) ∧ ∃ plan, resolve names selectors = .ok plan ∧
      plan.map (·.leaf.name) = ["test", "build", "test-release"] ∧
      IsPlanOf plan names selectors ∧
      resolve ["test", "build", "test-release"] selectors = .ok plan := by
  intro names selectors
  have hnames : ∀ name ∈ names, name ∈ Target.names := by decide
  obtain ⟨-, hplanned, -⟩ := resolve_isPlanOf names selectors
  obtain ⟨plan, hplan, hspec, hagain⟩ := hplanned hnames
  obtain ⟨parts, hparts, htargets⟩ := hspec.targets_eq
  obtain rfl : [["test"], ["build", "test"], ["build"], ["test-release"]] = parts :=
    Except.ok.inj hparts
  rw [show List.eraseDups _ = ["test", "build", "test-release"] by decide] at htargets
  exact ⟨hnames, plan, hplan, htargets, hspec, htargets ▸ hagain⟩

end Plan

end DualToolchain
