import DualToolchain.Settings
import Mathlib.Tactic.Common

/-! Which keys of an environment file the settings depend on. Beside the variables, whose names
begin with `MATRIX_`, these are the bare names of the settings whose variable is not given: such a
key works as the variable itself. -/

namespace DualToolchain.Settings

/-! ### The variables of a file -/

def fileValues (env : Environment) (file : Option String) : EnvFile.Values :=
  (file.map (EnvFile.values env)).getD []

/-- The keys that begin with `MATRIX_`, and their values. -/
def onlyVariables (values : EnvFile.Values) : EnvFile.Values :=
  values.filter fun v => "MATRIX_".toList.isPrefixOf v.1.toList

/-- Every key that begins with `MATRIX_` has one value in both files. -/
def AgreeOnVariables (values values' : EnvFile.Values) : Prop :=
  ∀ name, values.lookup ("MATRIX_" ++ name) = values'.lookup ("MATRIX_" ++ name)

theorem lookup_filter {p : String → Bool} {key : String} (hp : p key = true)
    (values : EnvFile.Values) : (values.filter fun v => p v.1).lookup key = values.lookup key := by
  induction values with
  | nil => rfl
  | cons v rest ih =>
    obtain ⟨key', value⟩ := v
    rw [List.filter_cons]
    by_cases hkey : key = key'
    · subst hkey
      rw [if_pos hp, List.lookup_cons_self, List.lookup_cons_self]
    · have hne : (key == key') = false := by simpa using hkey
      split_ifs
      · rw [List.lookup_cons, List.lookup_cons, hne, ih]
      · rw [List.lookup_cons, hne, ih]

theorem agreeOnVariables_of_eq {values values' : EnvFile.Values}
    (h : onlyVariables values = onlyVariables values') : AgreeOnVariables values values' := by
  intro name
  have hprefix : "MATRIX_".toList.isPrefixOf ("MATRIX_" ++ name).toList = true := by simp
  have hlookup := fun values => lookup_filter (p := fun k => "MATRIX_".toList.isPrefixOf k.toList)
    hprefix values
  rw [← hlookup, ← hlookup values']
  exact congrArg (List.lookup _) h

/-! ### Texts -/

/-- No variable gives the setting. -/
def IsUnset (env : Environment) (values : EnvFile.Values) (s : SettingName) : Prop :=
  env.lookup s.envKey = none ∧ fileValue values s.envKey = none

/-- What the bare name of a setting stands for in a file. An empty text does not count. -/
def bareText (values : EnvFile.Values) (s : SettingName) : Option String :=
  (fileValue values s.bare).filter (· ≠ "")

variable {env : Environment} {values values' : EnvFile.Values} {s : SettingName}

theorem given_of_isUnset (h : IsUnset env values s) : given env values s = bareText values s := by
  rw [given, h.1, h.2]
  rfl

theorem AgreeOnVariables.fileValue_eq (h : AgreeOnVariables values values') (s : SettingName) :
    fileValue values s.envKey = fileValue values' s.envKey :=
  congrArg Option.join (h s.bare)

theorem AgreeOnVariables.isUnset_iff (h : AgreeOnVariables values values') (s : SettingName) :
    IsUnset env values s ↔ IsUnset env values' s := by
  rw [IsUnset, IsUnset, h.fileValue_eq]

/-- Under files that agree on the variables, a setting has one text unless its bare name makes a
difference. -/
theorem AgreeOnVariables.given_eq_iff (h : AgreeOnVariables values values') (s : SettingName) :
    given env values s = given env values' s ↔
      (IsUnset env values s → bareText values s = bareText values' s) := by
  by_cases hu : IsUnset env values s
  · rw [given_of_isUnset hu, given_of_isUnset ((h.isUnset_iff s).mp hu)]
    exact ⟨fun heq _ => heq, fun heq => heq hu⟩
  · refine iff_of_true ?_ fun hunset => absurd hunset hu
    rw [given, given, ← h.fileValue_eq]
    cases henv : env.lookup s.envKey with
    | some text => rfl
    | none =>
      cases hfile : fileValue values s.envKey with
      | some text => rfl
      | none => exact absurd ⟨henv, hfile⟩ hu

/-- Settings are read from nothing but the texts that are given for them. -/
theorem ofValues_congr (h : ∀ s, given env values s = given env values' s) :
    ofValues env values = ofValues env values' := by
  simp only [ofValues, h]

/-! ### Bare names -/

theorem envKey_injective {s s' : SettingName} (h : s.envKey = s'.envKey) : s = s' := by
  cases s <;> cases s' <;> first | rfl | exact absurd h (by decide)

theorem bare_ne_envKey (s s' : SettingName) : s.bare ≠ s'.envKey := by
  cases s <;> cases s' <;> decide

/-- A bare name works as the variable would. -/
theorem given_cons_envKey {text : String} (hu : IsUnset env values s)
    (hb : bareText values s = some text) (s' : SettingName) :
    given env ((s.envKey, some text) :: values) s' = given env values s' := by
  have hbare : (s'.bare == s.envKey) = false := by simpa using bare_ne_envKey s' s
  by_cases hs : s' = s
  · subst hs
    rw [given_of_isUnset hu, hb, given, hu.1, fileValue, List.lookup_cons_self]
    rfl
  · have hkey : (s'.envKey == s.envKey) = false := by simpa using fun h => hs (envKey_injective h)
    simp only [given, fileValue, List.lookup_cons, hkey, hbare]

/-- Of two files that agree on the variables, the settings have the same texts if and only if the
files agree on the bare names of the settings that no variable gives, and then the settings are the
same, or the same is wrong with them. No other key has a part in it. Where no variable gives a
setting, its bare name does, as if it were the variable. -/
theorem read_of_agreeOnVariables {file file' : Option String}
    (h : AgreeOnVariables (fileValues env file) (fileValues env file')) :
    (∀ s, given env (fileValues env file) s = given env (fileValues env file') s ↔
      (IsUnset env (fileValues env file) s →
        bareText (fileValues env file) s = bareText (fileValues env file') s)) ∧
    ((∀ s, IsUnset env (fileValues env file) s →
      bareText (fileValues env file) s = bareText (fileValues env file') s) →
        read env file = read env file') ∧
    ∀ s text, IsUnset env (fileValues env file) s → bareText (fileValues env file) s = some text →
      read env file = ofValues env ((s.envKey, some text) :: fileValues env file) := by
  refine ⟨h.given_eq_iff, fun hbare => ?_, fun s text hu hb => ?_⟩
  · exact ofValues_congr fun s => (h.given_eq_iff s).mpr (hbare s)
  · exact ofValues_congr fun s' => (given_cons_envKey hu hb s').symm

/-- The log level is given in the environment, and so an unusable bare name of it and a key of
another program make no difference. -/
theorem read_of_agreeOnVariables_logLevel :
    let env : Environment := [("MATRIX_LOG_LEVEL", "debug")]
    let file := some "LOG_LEVEL=verbose\nEDITOR=vi\nMATRIX_STABLE_TOOLCHAIN=beta\n"
    let file' := some "MATRIX_STABLE_TOOLCHAIN=beta\n"
    AgreeOnVariables (fileValues env file) (fileValues env file') ∧
      (∀ s, IsUnset env (fileValues env file) s →
        bareText (fileValues env file) s = bareText (fileValues env file') s) ∧
      read env file = read env file' ∧
      read env file' = .ok { stable := "beta", logLevel := .debug } := by
  intro env file file'
  have hfile : fileValues env file = [("MATRIX_STABLE_TOOLCHAIN", some "beta"),
      ("EDITOR", some "vi"), ("LOG_LEVEL", some "verbose")] := by decide +kernel
  have hfile' : fileValues env file' = [("MATRIX_STABLE_TOOLCHAIN", some "beta")] := by
    decide +kernel
  have hagree : AgreeOnVariables (fileValues env file) (fileValues env file') := by
    rw [hfile, hfile']
    exact agreeOnVariables_of_eq (by decide)
  have hbare : ∀ s, IsUnset env (fileValues env file) s →
      bareText (fileValues env file) s = bareText (fileValues env file') s := by
    rintro s ⟨henv, -⟩
    rw [hfile, hfile']
    cases s
    case logLevel => exact absurd henv (by decide)
    all_goals decide
  exact ⟨hagree, hbare, (read_of_agreeOnVariables hagree).2.1 hbare, by decide +kernel⟩

/-- Not only variables configure: a file with no variable at all makes the settings unusable by a
key that does not begin with `MATRIX_`, though it agrees with the empty file on all that do. -/
theorem not_read_eq_of_agreeOnVariables :
    ¬ (∀ (env : Environment) (file file' : Option String),
      AgreeOnVariables (fileValues env file) (fileValues env file') →
        read env file = read env file') ∧
    read [] (some "LOG_LEVEL=verbose\n") = .error [⟨.logLevel, .notLogLevel, "VERBOSE"⟩] ∧
    read [] (some "") = .ok {} := by
  have hverbose : read [] (some "LOG_LEVEL=verbose\n") =
      .error [⟨.logLevel, .notLogLevel, "VERBOSE"⟩] := by decide +kernel
  have hempty : read [] (some "") = .ok {} := by decide +kernel
  refine ⟨fun hsame => ?_, hverbose, hempty⟩
  have heq := hsame [] (some "LOG_LEVEL=verbose\n") (some "")
    (agreeOnVariables_of_eq (by decide +kernel))
  rw [hverbose, hempty] at heq
  exact absurd heq (by simp)

end DualToolchain.Settings
