import DualToolchain.Proofs.Settings

/-! One setting at a time. What is read of a setting, its value or what is wrong with it, depends on
nothing but the text that is given for it. A variable of the environment is that text, whatever an
environment file says. -/

namespace DualToolchain

/-- The value of one setting, whichever it is. -/
inductive SettingValue where
  | text (text : String)
  | optional (text : Option String)
  | flag (on : Bool)
  | level (level : LogLevel)
  deriving DecidableEq

namespace Settings

def value (s : Settings) : SettingName → SettingValue
  | .program => .text s.program
  | .pinned => .text s.pinned
  | .stable => .text s.stable
  | .projectDir => .optional s.projectDir
  | .receiptDir => .optional s.receiptDir
  | .capture => .flag s.capture
  | .logLevel => .level s.logLevel

def errorsOn (name : SettingName) : Except (List SettingError) Settings → List SettingError
  | .ok _ => []
  | .error errors => errors.filter (·.name = name)

/-- The same was read of a setting: the same is wrong with it, and where nothing is wrong with any
setting it has the same value. -/
structure AgreeOn (name : SettingName) (read read' : Except (List SettingError) Settings) :
    Prop where
  errors_eq : errorsOn name read = errorsOn name read'
  value_eq : ∀ s s', read = .ok s → read' = .ok s' → s.value name = s'.value name

/-- What is read of one setting from the text that is given for it. -/
def readOne : SettingName → Option String → Except SettingError SettingValue
  | .program, text => .ok (.text (text.getD "cargo"))
  | .pinned, text => .ok (.text (text.getD "1.31.0"))
  | .stable, text => .ok (.text (text.getD "stable"))
  | .projectDir, text => .ok (.optional text)
  | .receiptDir, text => .ok (.optional text)
  | .capture, text => (readCapture text).map .flag
  | .logLevel, text => (readLevel text).map .level

variable {env : Environment} {values values' : EnvFile.Values} {name : SettingName}

theorem name_of_readCapture {text : Option String} {e : SettingError}
    (h : readCapture text = .error e) : e.name = .capture := by
  unfold readCapture at h
  split at h
  · contradiction
  · split at h
    · contradiction
    · rw [← Except.error.inj h]

theorem name_of_readLevel {text : Option String} {e : SettingError}
    (h : readLevel text = .error e) : e.name = .logLevel := by
  unfold readLevel at h
  split at h
  · contradiction
  · split at h
    · contradiction
    · rw [← Except.error.inj h]

theorem errorsOn_ofValues (env : Environment) (values : EnvFile.Values) (name : SettingName) :
    errorsOn name (ofValues env values) = errorOf (readOne name (given env values name)) := by
  unfold ofValues
  cases hc : readCapture (given env values .capture) with
  | ok capture =>
    cases hl : readLevel (given env values .logLevel) with
    | ok level => cases name <;> simp [errorsOn, readOne, errorOf, hc, hl, Except.map]
    | error e =>
      have he := name_of_readLevel hl
      cases name <;> simp [errorsOn, readOne, errorOf, hc, hl, he, Except.map]
  | error e =>
    have he := name_of_readCapture hc
    cases hl : readLevel (given env values .logLevel) with
    | ok level => cases name <;> simp [errorsOn, readOne, errorOf, hc, hl, he, Except.map]
    | error e' =>
      have he' := name_of_readLevel hl
      cases name <;> simp [errorsOn, readOne, errorOf, hc, hl, he, he', Except.map]

theorem readOne_of_ofValues {s : Settings} (h : ofValues env values = .ok s)
    (name : SettingName) : readOne name (given env values name) = .ok (s.value name) := by
  unfold ofValues at h
  cases hc : readCapture (given env values .capture) with
  | error e => simp [hc] at h
  | ok capture =>
    cases hl : readLevel (given env values .logLevel) with
    | error e => simp [hc, hl] at h
    | ok level =>
      simp only [hc, hl] at h
      obtain rfl := Except.ok.inj h
      cases name <;> simp [readOne, value, hc, hl, Except.map]

theorem ofValues_agreeOn (h : given env values name = given env values' name) :
    AgreeOn name (ofValues env values) (ofValues env values') where
  errors_eq := by rw [errorsOn_ofValues, errorsOn_ofValues, h]
  value_eq s s' hs hs' := by
    have hvalue := readOne_of_ofValues hs name
    rw [h, readOne_of_ofValues hs' name] at hvalue
    exact (Except.ok.inj hvalue).symm

/-- A variable of the environment gives its setting, whatever is in a file. -/
theorem given_of_lookup {text : String} (h : env.lookup name.envKey = some text)
    (values : EnvFile.Values) : given env values name = some text := by
  rw [given, h]

theorem read_agreeOn {text : String} (h : env.lookup name.envKey = some text)
    (file file' : Option String) : AgreeOn name (read env file) (read env file') :=
  ofValues_agreeOn (by rw [given_of_lookup h, given_of_lookup h])

/-- Settings that are all given in the environment are read from it alone. -/
theorem read_eq_of_lookup (h : ∀ name : SettingName, (env.lookup name.envKey).isSome)
    (file file' : Option String) : read env file = read env file' := by
  refine ofValues_congr fun name => ?_
  obtain ⟨text, htext⟩ := Option.isSome_iff_exists.mp (h name)
  rw [given_of_lookup htext, given_of_lookup htext]

end Settings

end DualToolchain
