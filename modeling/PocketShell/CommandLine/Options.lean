import PocketShell.Checkpoint
import PocketShell.Text.Digit

/-!
The options of the command line. Options come first; the first argument that is none begins the
command, which takes all the rest as it is. A long option may be shortened as long as only one
begins so, and its value may follow behind `=`, where two dashes leave it without one. An
argument counts as an option if it begins with a dash, unless it is a dash alone, looks like a
negative number, or is unknown and has a blank in it.
-/

namespace PocketShell.CommandLine

inductive OptionName
  | help
  | user
  | state
  | stem
  | examples
  | logLevel
  deriving DecidableEq, Repr

structure Options where
  /-- The user, unless it was given without a value. -/
  user : Option Text
  /-- The path of the state file; an empty path stands for none. -/
  state : Text
  stem : Text
  examples : Bool := false
  /-- The level of the log, unless it was given without a value. -/
  logLevel : Option Text := some ("WARNING" : String)
  command : List Text := []
  deriving DecidableEq, Repr

/-- What becomes of the arguments: options to start with, a help text, or a complaint about the
usage. -/
inductive Reading
  | options (o : Options)
  | help
  | usage
  deriving DecidableEq, Repr

/-- What an argument is by its look. A cluster is the short help flag with more behind it. -/
inductive Argument
  | plain
  | option (o : OptionName) (value : Option Text)
  | cluster (flags : Text)
  | unknown
  | ambiguous
  deriving DecidableEq, Repr

def spellings : List (Text × OptionName) :=
  [("-h", .help), ("--help", .help), ("--user", .user), ("--state", .state), ("--prefix", .stem),
   ("--examples", .examples), ("--log-level", .logLevel)]

def named? (t : Text) : Option OptionName := (spellings.find? (·.1 = t)).map Prod.snd

/-- The options that an argument may be a shortened form of. -/
def candidates (arg : Text) : List Argument :=
  if (['-', '-'] : Text).isPrefixOf arg then
    let (start, value) := match Text.cutFirst '=' arg with
      | some (start, value) => (start, some value)
      | none => (arg, none)
    (spellings.filter fun s => start.isPrefixOf s.1).map fun s => .option s.2 value
  else if (['-', 'h'] : Text).isPrefixOf arg then [.cluster (arg.drop 2)]
  else []

/-- An option with its value behind `=`; behind the short help flag come more flags. -/
def withValue? (arg : Text) : Option Argument :=
  match Text.cutFirst '=' arg with
  | none => none
  | some (name, value) =>
      if name = (['-', 'h'] : Text) then some (.cluster value)
      else (named? name).map fun o => .option o (some value)

def classify (arg : Text) : Argument :=
  if arg.head? ≠ some (.char '-') then .plain
  else match named? arg with
    | some o => .option o none
    | none =>
        if arg.length = 1 then .plain
        else match withValue? arg with
          | some a => a
          | none =>
              match candidates arg with
              | [a] => a
              | _ :: _ :: _ => .ambiguous
              | [] => if Text.looksNegative arg || arg.contains ' ' then .plain else .unknown

/-- The arguments with their looks; from `--` on all are plain. -/
def classifyAll : List Text → List (Text × Argument)
  | [] => []
  | arg :: args =>
      if arg = (['-', '-'] : Text) then (arg :: args).map fun a => (a, .plain)
      else (arg, classify arg) :: classifyAll args

/-- Two dashes are no value. -/
def valueOf (text : Text) : Option Text := if text = (['-', '-'] : Text) then none else some text

namespace Options

def set (o : Options) (value : Option Text) : OptionName → Options
  | .user => { o with user := value }
  | .state => { o with state := value.getD [] }
  | .stem => { o with stem := value.getD [] }
  | .logLevel => { o with logLevel := value }
  | .help => o
  | .examples => { o with examples := true }

end Options

def OptionName.takesValue : OptionName → Bool
  | .help => false
  | .examples => false
  | _ => true

/-- Behind the short help flag only the same flag may follow, at least once. -/
def readCluster (flags : Text) : Reading :=
  if !flags.isEmpty && flags.all fun c => c = 'h' then .help else .usage

/-- Reads the arguments from the left; `strange` tells whether an unknown option was met. -/
def scan (o : Options) (strange : Bool) : List (Text × Argument) → Reading
  | [] => if strange then .usage else .options o
  | (arg, .plain) :: rest =>
      if strange then .usage else .options { o with command := arg :: rest.map Prod.fst }
  | (_, .unknown) :: rest => scan o true rest
  | (_, .ambiguous) :: _ => .usage
  | (_, .cluster flags) :: _ => readCluster flags
  | (_, .option opt (some value)) :: rest =>
      if opt.takesValue then scan (o.set (valueOf value) opt) strange rest else .usage
  | (_, .option opt none) :: rest =>
      if opt.takesValue then
        match rest with
        | (value, .plain) :: rest =>
            if value = (['-', '-'] : Text) then .usage
            else scan (o.set (some value) opt) strange rest
        | _ => .usage
      else if opt = .help then .help
      else scan (o.set none opt) strange rest

/-- Reads all arguments over the options that hold without them. An argument that may be short
for several options spoils them all. -/
def read (start : Options) (args : List Text) : Reading :=
  let arguments := classifyAll args
  if arguments.any (·.2 = .ambiguous) then .usage else scan start false arguments

/-- The options that hold without arguments, by the variables of the host. -/
def defaults (setting : Text → Option Text) : Options :=
  { user := some ((setting "UNIXSHELL_USER").getD "user"),
    state := (setting "UNIXSHELL_STATE").getD [],
    stem := (setting "UNIXSHELL_PREFIX").getD Checkpoint.defaultStem }

end PocketShell.CommandLine
