import DualToolchain.Proofs.CommandLine

/-! The options that a command line gives, in order, and which of them count. Reading the arguments
is going through these options, so of several for the directory of the project, the directory of
receipts or capturing the last one decides, wherever it stands and however it is spelled. -/

namespace DualToolchain.CommandLine

/-! ### Options in order -/

def firstWord? : List Arg → Option String
  | .word text :: _ => some text
  | _ => none

/-- The options of arguments, each with its value if it takes one. -/
def given : List Arg → List (Opt × Option String)
  | [] => []
  | .option o :: rest => (o, if o.takesValue then firstWord? rest else none) :: given rest
  | .valued o value :: rest => (o, some value) :: given rest
  | .cluster o letters :: rest => (Arg.cluster o letters).flags.map (·, none) ++ given rest
  | .word _ :: rest => given rest
  | .separator :: rest => given rest
  | .unknown _ :: rest => given rest

def givenOptions (argv : List String) : List (Opt × Option String) :=
  ((classifyAll argv).toOption.map given).getD []

/-- The value of an option, if it is this one that is given. -/
def valueOf (o : Opt) (e : Opt × Option String) : Option String :=
  if e.1 = o then e.2 else none

def lastValue (argv : List String) (o : Opt) : Option String :=
  ((givenOptions argv).filterMap (valueOf o)).getLast?

/-- Whether an option says to capture, if it says anything about it. -/
def Opt.capture? : Opt → Option Bool
  | .capture on => some on
  | _ => none

def lastCapture (argv : List String) : Option Bool :=
  ((givenOptions argv).filterMap fun e => e.1.capture?).getLast?

/-! ### What they override -/

/-- The arguments that come before settings. -/
structure Overrides where
  receiptDir : Option Path
  projectDir : Option Path
  capture : Option Bool

def Arguments.overrides (args : Arguments) : Overrides :=
  ⟨args.receiptDir, args.projectDir, args.capture⟩

def Overrides.add (ov : Overrides) : Opt × Option String → Overrides
  | (.receiptDir, some value) => { ov with receiptDir := pathOfValue value }
  | (.projectDir, some value) => { ov with projectDir := pathOfValue value }
  | (.capture on, _) => { ov with capture := some on }
  | _ => ov

section Effects

variable {args args' : Arguments}

theorem applyFlag_overrides {flag : Opt} (h : applyFlag args flag = .ok args') :
    args'.overrides = args.overrides.add (flag, none) := by
  cases flag <;> simp only [applyFlag, reduceCtorEq, Except.ok.injEq] at h <;> subst h <;> rfl

theorem applyFlags_overrides {flags : List Opt} (h : applyFlags args flags = .ok args') :
    args'.overrides = (flags.map (·, none)).foldl Overrides.add args.overrides := by
  induction flags generalizing args with
  | nil =>
    obtain rfl := Except.ok.inj h
    rfl
  | cons flag rest ih =>
    rw [applyFlags] at h
    cases hf : applyFlag args flag with
    | error p => simp [hf] at h
    | ok next =>
      rw [hf] at h
      rw [ih h, applyFlag_overrides hf, List.map_cons, List.foldl_cons]

theorem applyValue_overrides {valued : Opt} {value : String}
    (h : applyValue args valued value = .ok args') :
    args'.overrides = args.overrides.add (valued, some value) := by
  cases valued <;> simp only [applyValue, reduceCtorEq, Except.ok.injEq] at h <;> subst h <;> rfl

end Effects

theorem addWord_overrides (r : Reading) (text : String) (isSeparator : Bool) :
    (r.addWord text isSeparator).args.overrides = r.args.overrides := by
  unfold Reading.addWord
  split_ifs <;> rfl

/-- Reading is going through the options that are given. -/
theorem consume_overrides {r : Reading} {as : List Arg} {args : Arguments}
    (h : consume r as = .arguments args) :
    args.overrides = (given as).foldl Overrides.add r.args.overrides := by
  fun_induction consume r as with
  | case1 r hextras =>
    obtain rfl := Parsed.arguments.inj h
    rfl
  | case2 r hextras => contradiction
  | case3 r text rest ih => rw [ih h, addWord_overrides, given]
  | case4 r rest ih => rw [ih h, addWord_overrides, given]
  | case5 r text rest ih => rw [ih h, given, Reading.afterOption]
  | case6 r valued value rest args' hvalue ih =>
    rw [ih h, given, List.foldl_cons, ← applyValue_overrides hvalue, Reading.afterOption]
  | case7 r valued value rest p hvalue => exact absurd h (applyValue_ne_arguments hvalue _)
  | case8 r first letters rest e hletters => contradiction
  | case9 r first letters rest flags hletters args' hflags ih =>
    have hcluster : (Arg.cluster first letters).flags = flags := by
      rw [Arg.flags, hletters]
      rfl
    rw [ih h, given, hcluster, List.foldl_append, ← applyFlags_overrides hflags,
      Reading.afterOption]
  | case10 r first letters rest flags hletters p hflags =>
    exact absurd h (applyFlags_ne_arguments hflags _)
  | case11 r valued htakes value rest args' hvalue ih =>
    rw [ih h, given, if_pos htakes, firstWord?, List.foldl_cons, ← applyValue_overrides hvalue,
      given, Reading.afterOption]
  | case12 r valued htakes value rest p hvalue =>
    exact absurd h (applyValue_ne_arguments hvalue _)
  | case13 r valued rest htakes hrest => contradiction
  | case14 r flag rest htakes args' hflag ih =>
    rw [ih h, given, if_neg htakes, List.foldl_cons, ← applyFlag_overrides hflag,
      Reading.afterOption]
  | case15 r flag rest htakes p hflag => exact absurd h (applyFlag_ne_arguments hflag _)

theorem add_projectDir (ov : Overrides) (e : Opt × Option String) :
    (ov.add e).projectDir = (valueOf .projectDir e).elim ov.projectDir pathOfValue := by
  obtain ⟨o, value⟩ := e
  cases o <;> cases value <;> rfl

theorem add_receiptDir (ov : Overrides) (e : Opt × Option String) :
    (ov.add e).receiptDir = (valueOf .receiptDir e).elim ov.receiptDir pathOfValue := by
  obtain ⟨o, value⟩ := e
  cases o <;> cases value <;> rfl

theorem add_capture (ov : Overrides) (e : Opt × Option String) :
    (ov.add e).capture = (e.1.capture?).elim ov.capture some := by
  obtain ⟨o, value⟩ := e
  cases o <;> cases value <;> rfl

/-- A part of the overrides that each option sets or leaves alone is what the last one sets. -/
theorem foldl_add_eq {α β : Type} (part : Overrides → β) (setting : Opt × Option String → Option α)
    (effect : α → β) (h : ∀ ov e, part (ov.add e) = (setting e).elim (part ov) effect)
    (es : List (Opt × Option String)) (ov : Overrides) :
    part (es.foldl Overrides.add ov) = (es.filterMap setting).getLast?.elim (part ov) effect := by
  induction es generalizing ov with
  | nil => rfl
  | cons e es ih =>
    rw [List.foldl_cons, ih, h, List.filterMap_cons]
    cases setting e with
    | none => rfl
    | some a =>
      rw [Option.elim_some, List.getLast?_cons]
      cases (es.filterMap setting).getLast? <;> rfl

/-- Of each kind of override the last option decides. A value that is two dashes alone does not
count, and with it none of the values before it. -/
theorem overrides_of_parse {argv : List String} {args : Arguments}
    (h : parse argv = .arguments args) :
    args.projectDir = (lastValue argv .projectDir).bind pathOfValue ∧
    args.receiptDir = (lastValue argv .receiptDir).bind pathOfValue ∧
    args.capture = lastCapture argv := by
  rw [parse] at h
  cases hc : classifyAll argv with
  | error e => simp [hc] at h
  | ok as =>
    rw [hc] at h
    have hov := consume_overrides h
    have hgiven : givenOptions argv = given as := by
      rw [givenOptions, hc]
      rfl
    rw [lastValue, lastValue, lastCapture, hgiven]
    refine ⟨?_, ?_, ?_⟩
    · have hdir := foldl_add_eq _ _ _ add_projectDir (given as) ({} : Reading).args.overrides
      rw [← hov] at hdir
      refine hdir.trans ?_
      cases ((given as).filterMap (valueOf .projectDir)).getLast? <;> rfl
    · have hdir := foldl_add_eq _ _ _ add_receiptDir (given as) ({} : Reading).args.overrides
      rw [← hov] at hdir
      refine hdir.trans ?_
      cases ((given as).filterMap (valueOf .receiptDir)).getLast? <;> rfl
    · have hcapture := foldl_add_eq _ _ _ add_capture (given as) ({} : Reading).args.overrides
      rw [← hov] at hcapture
      refine hcapture.trans ?_
      cases ((given as).filterMap fun e => e.1.capture?).getLast? <;> rfl

example : lastValue ["--proj=a", "build", "--project-dir", "", "--", "--proj=b"] .projectDir =
    some "" := by decide +kernel

end DualToolchain.CommandLine
