import DualToolchain.CommandLine.Option
import DualToolchain.Path

/-! From arguments to what they ask for. Options take effect in order; the first group of words
names the targets. -/

namespace DualToolchain.CommandLine

/-- What a command line asks for. -/
structure Arguments where
  targets : List String := []
  list : Bool := false
  dryRun : Bool := false
  capture : Option Bool := none
  receiptDir : Option Path := none
  projectDir : Option Path := none
  verbose : Bool := false
  deriving DecidableEq

/-- How reading a command line ends. -/
inductive Parsed where
  | arguments (args : Arguments)
  | help
  | version
  | error (e : UsageError)
  deriving DecidableEq

/-- Where a reader stands: before, in or after the first group of words. -/
inductive Group where
  | before | inside | after
  deriving DecidableEq

/-- What was read so far: the arguments, the place and what has no meaning. -/
structure Reading where
  args : Arguments := {}
  group : Group := .before
  extras : List String := []

/-- The effect of an option without a value, or the end of the reading. -/
def applyFlag (args : Arguments) : Opt → Except Parsed Arguments
  | .help => .error .help
  | .version => .error .version
  | .list => .ok { args with list := true }
  | .dryRun => .ok { args with dryRun := true }
  | .capture on => .ok { args with capture := some on }
  | .verbose => .ok { args with verbose := true }
  | o => .error (.error (.missingValue o))

def applyFlags (args : Arguments) : List Opt → Except Parsed Arguments
  | [] => .ok args
  | o :: rest =>
    match applyFlag args o with
    | .ok args => applyFlags args rest
    | .error p => .error p

/-- The path that a value gives. A value that is a separator alone is dropped. -/
def pathOfValue (value : String) : Option Path :=
  if value = "--" then none else some (.ofString value)

def applyValue (args : Arguments) (o : Opt) (value : String) : Except Parsed Arguments :=
  match o with
  | .receiptDir => .ok { args with receiptDir := pathOfValue value }
  | .projectDir => .ok { args with projectDir := pathOfValue value }
  | o => .error (.error (.ignoredValue o value))

/-- The options of a cluster: its letters are options of one letter without a value. -/
def clusterOptions (o : Opt) : List Char → Except UsageError (List Opt)
  | [] => .ok [o]
  | c :: rest =>
    match Opt.ofSpelling? (String.ofList ['-', c]) with
    | some o' => (clusterOptions o' rest).map (o :: ·)
    | none => .error (.ignoredValue o (String.ofList (c :: rest)))

/-- Reading on after a word or a separator. The group of targets leaves out the separator. -/
def Reading.addWord (r : Reading) (text : String) (isSeparator : Bool) : Reading :=
  if r.group = .after then { r with extras := r.extras ++ [text] }
  else
    let targets := if isSeparator then r.args.targets else r.args.targets ++ [text]
    { r with args := { r.args with targets := targets }, group := .inside }

def Reading.afterOption (r : Reading) (args : Arguments) : Reading :=
  { r with args := args, group := if r.group = .inside then .after else r.group }

def consume (r : Reading) : List Arg → Parsed
  | [] => if r.extras = [] then .arguments r.args else .error (.unrecognized r.extras)
  | .word text :: rest => consume (r.addWord text false) rest
  | .separator :: rest => consume (r.addWord "--" true) rest
  | .unknown text :: rest =>
    consume { r.afterOption r.args with extras := r.extras ++ [text] } rest
  | .valued o value :: rest =>
    match applyValue r.args o value with
    | .ok args => consume (r.afterOption args) rest
    | .error p => p
  | .cluster o letters :: rest =>
    match clusterOptions o letters.toList with
    | .error e => .error e
    | .ok os =>
      match applyFlags r.args os with
      | .ok args => consume (r.afterOption args) rest
      | .error p => p
  | .option o :: rest =>
    if o.takesValue then
      match rest with
      | .word value :: rest =>
        match applyValue r.args o value with
        | .ok args => consume (r.afterOption args) rest
        | .error p => p
      | _ => .error (.missingValue o)
    else
      match applyFlag r.args o with
      | .ok args => consume (r.afterOption args) rest
      | .error p => p

/-- Reads a command line. All arguments are classified before the first one has an effect. -/
def parse (argv : List String) : Parsed :=
  match classifyAll argv with
  | .error e => .error e
  | .ok args => consume {} args

end DualToolchain.CommandLine
