import DualToolchain.CommandLine.Arguments
import Mathlib.Tactic.Common

/-! Switches on a command line. An option that only sets a mark is in effect if and only if it is
given before the first separator, by its name, by an abbreviation or in a row of letters, whatever
stands around it. -/

namespace DualToolchain.CommandLine

def Arg.flags : Arg → List Opt
  | .option o => [o]
  | .cluster o letters => (clusterOptions o letters.toList).toOption.getD []
  | _ => []

/-- An argument before the first separator brings the option. -/
def Gives (argv : List String) (o : Opt) : Prop :=
  ∃ arg ∈ argv.takeWhile (· != "--"), ∃ a, classify arg = .ok a ∧ o ∈ a.flags

/-- The options that set a mark and do nothing else. -/
def Opt.IsSwitch (o : Opt) : Prop :=
  o = .list ∨ o = .dryRun ∨ o = .verbose

def Arguments.isSet (args : Arguments) : Opt → Bool
  | .list => args.list
  | .dryRun => args.dryRun
  | .verbose => args.verbose
  | _ => false

/-! ### Effects -/

section Effects

variable {o : Opt} {args args' : Arguments}

theorem applyFlag_isSet (ho : o.IsSwitch) {flag : Opt} (h : applyFlag args flag = .ok args') :
    args'.isSet o = true ↔ args.isSet o = true ∨ o = flag := by
  rcases ho with rfl | rfl | rfl
  all_goals
    cases flag <;> simp only [applyFlag, reduceCtorEq, Except.ok.injEq] at h <;> subst h <;>
      simp [Arguments.isSet]

theorem applyFlags_isSet (ho : o.IsSwitch) {flags : List Opt}
    (h : applyFlags args flags = .ok args') :
    args'.isSet o = true ↔ args.isSet o = true ∨ o ∈ flags := by
  induction flags generalizing args with
  | nil =>
    obtain rfl := Except.ok.inj h
    simp
  | cons flag rest ih =>
    rw [applyFlags] at h
    cases hf : applyFlag args flag with
    | error p => simp [hf] at h
    | ok next =>
      rw [hf] at h
      rw [ih h, applyFlag_isSet ho hf, List.mem_cons, or_assoc]

theorem applyFlag_ne_arguments {flag : Opt} {p : Parsed} (h : applyFlag args flag = .error p)
    (args' : Arguments) : p ≠ .arguments args' := by
  cases flag <;> simp only [applyFlag, reduceCtorEq, Except.error.injEq] at h <;> simp [← h]

theorem applyFlags_ne_arguments {flags : List Opt} {p : Parsed}
    (h : applyFlags args flags = .error p) (args' : Arguments) : p ≠ .arguments args' := by
  induction flags generalizing args with
  | nil => simp [applyFlags] at h
  | cons flag rest ih =>
    rw [applyFlags] at h
    cases hf : applyFlag args flag with
    | ok next =>
      rw [hf] at h
      exact ih h
    | error p' =>
      rw [hf] at h
      obtain rfl := Except.error.inj h
      exact applyFlag_ne_arguments hf args'

theorem applyValue_isSet (o : Opt) {valued : Opt} {value : String}
    (h : applyValue args valued value = .ok args') : args'.isSet o = args.isSet o := by
  cases valued <;> simp only [applyValue, reduceCtorEq, Except.ok.injEq] at h <;> subst h <;>
    cases o <;> rfl

theorem applyValue_ne_arguments {valued : Opt} {value : String} {p : Parsed}
    (h : applyValue args valued value = .error p) (args' : Arguments) : p ≠ .arguments args' := by
  cases valued <;> simp only [applyValue, reduceCtorEq, Except.error.injEq] at h <;> simp [← h]

end Effects

/-! ### Reading -/

variable {o : Opt} {args : Arguments}

theorem addWord_isSet (o : Opt) (r : Reading) (text : String) (isSeparator : Bool) :
    (r.addWord text isSeparator).args.isSet o = r.args.isSet o := by
  unfold Reading.addWord
  by_cases hgroup : r.group = .after
  · rw [if_pos hgroup]
  · rw [if_neg hgroup]
    cases o <;> rfl

/-- Reading sets the marks that its arguments bring. -/
theorem consume_isSet (ho : o.IsSwitch) {r : Reading} {as : List Arg}
    (h : consume r as = .arguments args) :
    args.isSet o = true ↔ r.args.isSet o = true ∨ ∃ a ∈ as, o ∈ a.flags := by
  fun_induction consume r as with
  | case1 r hextras =>
    obtain rfl := Parsed.arguments.inj h
    simp
  | case2 r hextras => contradiction
  | case3 r text rest ih => simpa [addWord_isSet, Arg.flags] using ih h
  | case4 r rest ih => simpa [addWord_isSet, Arg.flags] using ih h
  | case5 r text rest ih => simpa [Reading.afterOption, Arg.flags] using ih h
  | case6 r valued value rest args' hvalue ih =>
    simpa [Reading.afterOption, applyValue_isSet o hvalue, Arg.flags] using ih h
  | case7 r valued value rest p hvalue => exact absurd h (applyValue_ne_arguments hvalue _)
  | case8 r first letters rest e hletters => contradiction
  | case9 r first letters rest flags hletters args' hflags ih =>
    have hset := applyFlags_isSet ho hflags
    have hcluster : (Arg.cluster first letters).flags = flags := by
      rw [Arg.flags, hletters]
      rfl
    simpa [Reading.afterOption, hset, hcluster, or_assoc] using ih h
  | case10 r first letters rest flags hletters p hflags =>
    exact absurd h (applyFlags_ne_arguments hflags _)
  | case11 r valued htakes value rest args' hvalue ih =>
    -- An option that takes a value is no switch.
    have hne : o ≠ valued := by
      rintro rfl
      rcases ho with rfl | rfl | rfl <;> contradiction
    simpa [Reading.afterOption, applyValue_isSet o hvalue, Arg.flags, hne] using ih h
  | case12 r valued htakes value rest p hvalue =>
    exact absurd h (applyValue_ne_arguments hvalue _)
  | case13 r valued rest htakes hrest => contradiction
  | case14 r flag rest htakes args' hflag ih =>
    have hset := applyFlag_isSet ho hflag
    simpa [Reading.afterOption, hset, Arg.flags, or_assoc] using ih h
  | case15 r flag rest htakes p hflag => exact absurd h (applyFlag_ne_arguments hflag _)

theorem exists_flags_iff_gives {argv : List String} {as : List Arg}
    (h : classifyAll argv = .ok as) (o : Opt) : (∃ a ∈ as, o ∈ a.flags) ↔ Gives argv o := by
  induction argv generalizing as with
  | nil =>
    obtain rfl := Except.ok.inj h
    simp [Gives]
  | cons arg rest ih =>
    by_cases hsep : arg = "--"
    · subst hsep
      obtain rfl := Except.ok.inj h
      simp [Gives, Arg.flags]
    · rw [classifyAll.eq_3 _ _ hsep] at h
      cases hc : classify arg with
      | error e => simp [hc] at h
      | ok a =>
        cases hrest : classifyAll rest with
        | error e => simp [hc, hrest, Except.map] at h
        | ok as' =>
          simp only [hc, hrest, Except.map] at h
          obtain rfl := Except.ok.inj h
          have hrest := ih hrest
          simp only [Gives] at hrest ⊢
          simp [hsep, hc, hrest]

/-- A switch is in effect if and only if it is given. -/
theorem isSet_iff_gives {argv : List String} (h : parse argv = .arguments args)
    (ho : o.IsSwitch) : args.isSet o = true ↔ Gives argv o := by
  rw [parse] at h
  cases hc : classifyAll argv with
  | error e => simp [hc] at h
  | ok as =>
    rw [hc] at h
    have hnone : ({} : Reading).args.isSet o = false := by cases o <;> rfl
    rw [consume_isSet ho h, hnone, exists_flags_iff_gives hc]
    simp

end DualToolchain.CommandLine
