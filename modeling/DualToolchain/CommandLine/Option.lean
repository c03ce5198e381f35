import DualToolchain.Text.DecimalDigit
import DualToolchain.Text.Quoted

/-! The options of the command line, and what each argument is taken for before any of them has an
effect. -/

namespace DualToolchain.CommandLine

inductive Opt where
  | help | list | dryRun | capture (on : Bool) | receiptDir | projectDir | verbose | version
  deriving DecidableEq

namespace Opt

def takesValue : Opt → Bool
  | .receiptDir | .projectDir => true
  | _ => false

/-- All spellings of an option, as messages name it. -/
def display : Opt → String
  | .help => "-h/--help"
  | .list => "--list"
  | .dryRun => "--dry-run"
  | .capture _ => "--capture/--no-capture"
  | .receiptDir => "--receipt-dir"
  | .projectDir => "--project-dir"
  | .verbose => "--verbose/-v"
  | .version => "--version"

/-- The spellings in the order in which they are tried. -/
def spellings : List (String × Opt) :=
  [("-h", .help), ("--help", .help), ("--list", .list), ("--dry-run", .dryRun),
    ("--capture", .capture true), ("--no-capture", .capture false),
    ("--receipt-dir", .receiptDir), ("--project-dir", .projectDir), ("--verbose", .verbose),
    ("-v", .verbose), ("--version", .version)]

def ofSpelling? (s : String) : Option Opt :=
  spellings.lookup s

end Opt

/-- What makes a command line unusable. -/
inductive UsageError where
  | ambiguous (arg : String) (candidates : List String)
  | ignoredValue (option : Opt) (value : String)
  | missingValue (option : Opt)
  | unrecognized (args : List String)
  deriving DecidableEq

def UsageError.message : UsageError → String
  | .ambiguous arg candidates =>
    "ambiguous option: " ++ arg ++ " could match " ++ ", ".intercalate candidates
  | .ignoredValue option value =>
    "argument " ++ option.display ++ ": ignored explicit argument " ++ Quoted.quote value
  | .missingValue option => "argument " ++ option.display ++ ": expected one argument"
  | .unrecognized args => "unrecognized arguments: " ++ " ".intercalate args

/-- What an argument is taken for. -/
inductive Arg where
  | word (text : String)
  /-- The first pair of dashes that stands alone: only words follow. -/
  | separator
  | option (option : Opt)
  /-- An option with a value behind an equals sign. -/
  | valued (option : Opt) (value : String)
  /-- One-letter options in a row, the first one given and the rest as text. -/
  | cluster (option : Opt) (letters : String)
  | unknown (text : String)
  deriving DecidableEq

/-- The text before the first equals sign and, if there is one, the text after it. -/
def splitEquals (s : String) : String × Option String :=
  let cs := s.toList
  let name := cs.takeWhile (· != '=')
  match cs.drop name.length with
  | [] => (s, none)
  | _ :: value => (String.ofList name, some (String.ofList value))

/-- A negative number: it is a word although it begins with a dash. A last line end does not
count. -/
def isNegativeNumber (s : String) : Bool :=
  match s.toList with
  | '-' :: cs =>
    let cs := if cs.getLast? = some '\n' then cs.dropLast else cs
    let rest := cs.dropWhile isDecimalDigit
    match rest with
    | [] => !cs.isEmpty
    | '.' :: fraction => !fraction.isEmpty && fraction.all isDecimalDigit
    | _ => false
  | _ => false

def withValue (o : Opt) (short : Bool) : Option String → Arg
  | none => .option o
  | some v => if short && v ≠ "" then .cluster o v else .valued o v

/-- The options that an argument abbreviates, with their spellings. After two dashes any
beginning of a name will do; after one dash the first letter alone may be an option. -/
def abbreviations (arg : String) : List (String × Arg) :=
  match arg.toList with
  | '-' :: '-' :: _ =>
    let (name, value) := splitEquals arg
    (Opt.spellings.filter fun (s, _) => name.toList.isPrefixOf s.toList).map fun (s, o) =>
      (s, withValue o false value)
  | '-' :: letter :: letters =>
    (Opt.spellings.filter fun (s, _) => s.toList = ['-', letter]).map fun (s, o) =>
      (s, withValue o true (some (String.ofList letters)))
  | _ => []

/-- What an argument is that is no option of the table: a negative number and a text with a space
are words. -/
def otherwise (arg : String) : Arg :=
  if isNegativeNumber arg || arg.toList.contains ' ' then .word arg else .unknown arg

def isShort (s : String) : Bool :=
  s.length == 2

/-- What an argument before the separator is taken for. -/
def classify (arg : String) : Except UsageError Arg :=
  if !("-".toList.isPrefixOf arg.toList) || arg = "-" then .ok (.word arg)
  else
    match Opt.ofSpelling? arg with
    | some o => .ok (.option o)
    | none =>
      let (name, value) := splitEquals arg
      match if value.isSome then Opt.ofSpelling? name else none with
      | some o => .ok (withValue o (isShort name) value)
      | none =>
        match abbreviations arg with
        | [] => .ok (otherwise arg)
        | [(_, a)] => .ok a
        | several => .error (.ambiguous arg (several.map (·.1)))

/-- What the arguments are taken for. The first pair of dashes alone ends the options. -/
def classifyAll : List String → Except UsageError (List Arg)
  | [] => .ok []
  | "--" :: rest => .ok (.separator :: rest.map .word)
  | arg :: rest =>
    match classify arg with
    | .error e => .error e
    | .ok a => (classifyAll rest).map (a :: ·)

end DualToolchain.CommandLine
