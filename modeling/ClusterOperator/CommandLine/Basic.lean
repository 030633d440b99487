import ClusterOperator.CommandLine.LogFilter
import ClusterOperator.Settings
import ClusterOperator.SortedMap.Basic
import ClusterOperator.Text.Basic

/-!
# The command line

The operator is started with options, each of which may also stand in a variable of the environment;
the command line goes before the environment. Options are read from left to right, and the first one
that asks for the help text or for the version ends the reading, as does the first mistake.
-/

namespace ClusterOperator

/-- The form of the lines of the log. -/
inductive LogFormat where
  | text
  | json
  deriving DecidableEq

/-- Reads the name of a form. -/
def LogFormat.read? : String → Option LogFormat
  | "text" => some text
  | "json" => some json
  | _ => none

/-- The options that take a value. -/
inductive ValueOption where
  | concurrency
  | passTimeout
  | clusterPoll
  | backoffMax
  | logFormat
  deriving DecidableEq

namespace ValueOption

def all : List ValueOption := [concurrency, passTimeout, clusterPoll, backoffMax, logFormat]

/-- The name of an option on the command line. -/
def name : ValueOption → String
  | concurrency => "--concurrency"
  | passTimeout => "--pass-timeout-secs"
  | clusterPoll => "--cluster-poll-secs"
  | backoffMax => "--backoff-max-secs"
  | logFormat => "--log-format"

/-- The variable of the environment for an option. -/
def variableName : ValueOption → String
  | concurrency => "TEMPORAL_OPERATOR_CONCURRENCY"
  | passTimeout => "TEMPORAL_OPERATOR_PASS_TIMEOUT_SECS"
  | clusterPoll => "TEMPORAL_OPERATOR_CLUSTER_POLL_SECS"
  | backoffMax => "TEMPORAL_OPERATOR_BACKOFF_MAX_SECS"
  | logFormat => "TEMPORAL_OPERATOR_LOG_FORMAT"

def purpose : ValueOption → String
  | concurrency => "Objects reconciled in parallel per controller (0 = unbounded)"
  | passTimeout => "Deadline for a single reconcile pass, in seconds"
  | clusterPoll => "Poll interval while a namespace waits for its cluster, in seconds"
  | backoffMax => "Upper bound for error backoff, in seconds"
  | logFormat => "Log output format: text or json"

def ofName? (name : String) : Option ValueOption := all.find? fun option => option.name = name

end ValueOption

/-- What the options say. -/
structure Options where
  settings : Settings := {}
  logFormat : LogFormat := .text

namespace Options

/-- Reads a number of objects. It is read as a signed number, so that zero may have a minus sign. -/
def readCount? (value : String) : Option Nat :=
  match value.toList with
  | '-' :: digits =>
      (Text.readDecimal? (String.ofList digits)).filter fun number =>
        number = 0 && digits.head? ≠ some '+'
  | _ => Text.readWord? 16 value

/-- Reads a number of seconds. -/
def readSeconds? (value : String) : Option Duration :=
  (Text.readWord? 64 value).bind fun seconds => Duration.ofNanoseconds? (seconds * 1_000_000_000)

/-- The options with the value of one of them. -/
def set? (options : Options) (option : ValueOption) (value : String) : Option Options :=
  let settings := options.settings
  match option with
  | .concurrency => do
      let concurrency ← readCount? value
      pure { options with settings := { settings with concurrency } }
  | .passTimeout => do
      let passTimeout ← readSeconds? value
      pure { options with settings := { settings with passTimeout } }
  | .clusterPoll => do
      let pollInterval ← readSeconds? value
      pure { options with settings := { settings with pollInterval } }
  | .backoffMax => do
      let maxDelay ← readSeconds? value
      pure { options with settings := settings.withMaxDelay maxDelay }
  | .logFormat => do
      let logFormat ← LogFormat.read? value
      pure { options with logFormat }

end Options

/-- What the command line asks for. -/
inductive Command where
  /-- Refuses to start. -/
  | refuse
  | help
  | version
  /-- Prints the definitions. -/
  | manifest
  | start (options : Options)
  /-- Breaks down over a filter of the log that cannot be cut. -/
  | breakDown

/-- How far the command line has been read. -/
structure CommandLine where
  options : Options := {}
  /-- The options that have been given. -/
  given : List ValueOption := []
  /-- Whether the definitions are asked for. -/
  manifest : Bool := false

namespace CommandLine

/-- The command line after one more option; an option is given once. -/
def give? (line : CommandLine) (option : ValueOption) (value : String) : Option CommandLine :=
  if option ∈ line.given then none
  else
    (line.options.set? option value).map fun options =>
      { line with options, given := option :: line.given }

/-- Fills in one option from the environment, unless it has been given. -/
def fill? (environment : StringMap String) (line : CommandLine) (option : ValueOption) :
    Option CommandLine :=
  if option ∈ line.given then some line
  else
    match environment.get? option.variableName with
    | none => some line
    | some value => line.give? option value

/-- The filter of the log: the standard one, unless the environment has one that can be read. -/
def logFilter (environment : StringMap String) : Except LogFilterFault LogFilter :=
  match environment.get? "RUST_LOG" with
  | none => .ok .standard
  | some written =>
      match LogFilter.read written with
      | .error .malformed => .ok .standard
      | result => result

/-- Starts the operator. -/
def start (environment : StringMap String) (options : Options) : Command :=
  match logFilter environment with
  | .ok _ => .start options
  | .error _ => .breakDown

/-- What is asked for once all arguments are read. -/
def finish (environment : StringMap String) (line : CommandLine) : Command :=
  match ValueOption.all.foldlM (fill? environment) line with
  | none => .refuse
  | some line => if line.manifest then .manifest else start environment line.options

/-- Whether an argument can be the value of the option before it. -/
def isValue (argument : String) : Bool := !argument.startsWith "-" || argument = "-"

/-- Reads the arguments from one on. -/
def readFrom (environment : StringMap String) (line : CommandLine) : List String → Command
  | [] => line.finish environment
  | argument :: rest =>
      if argument = "--crd" then
        if line.manifest then .refuse
        else readFrom environment { line with manifest := true } rest
      else if argument = "--help" then .help
      else if argument = "--version" then .version
      else if argument = "--" then
        if rest = [] then line.finish environment else .refuse
      else if argument.startsWith "-h" then .help
      else if argument.startsWith "-V" then .version
      else
        let name := String.ofList (argument.toList.takeWhile fun c => c ≠ '=')
        match ValueOption.ofName? name, argument.toList.drop name.length with
        | none, _ => .refuse
        | some option, '=' :: value =>
            match line.give? option (String.ofList value) with
            | none => .refuse
            | some line => readFrom environment line rest
        | some option, _ =>
            match rest with
            | value :: rest =>
                if isValue value then
                  match line.give? option value with
                  | none => .refuse
                  | some line => readFrom environment line rest
                else .refuse
            | [] => .refuse

def read (arguments : List String) (environment : StringMap String) : Command :=
  readFrom environment {} arguments

/-- Whether the line that announces the start is logged. -/
def announcesStart (environment : StringMap String) : Bool :=
  match logFilter environment with
  | .ok filter => filter.allows "temporal_operator" ["message", "settings"] .info
  | .error _ => false

end CommandLine

namespace Command

/-- The version of the operator, as it is printed. -/
def versionText : String := "temporal-operator 0.1.0\n"

def helpText : String :=
  "Temporal Operator - manages Temporal clusters and namespaces on Kubernetes\n\n" ++
    "Usage: temporal-operator [OPTIONS]\n\nOptions:\n" ++
    "      --crd\n          Print the CRD manifests and exit\n" ++
    String.join (ValueOption.all.map fun option =>
      "      " ++ option.name ++ " <VALUE>\n          " ++ option.purpose ++
        " [env: " ++ option.variableName ++ "]\n") ++
    "  -h, --help\n          Print help\n  -V, --version\n          Print version\n"

/-- The code that the operator exits with. Without a cluster to work in, starting fails. -/
def exitCode : Command → Nat
  | refuse => 2
  | help => 0
  | version => 0
  | manifest => 0
  | start _ => 1
  | breakDown => 101

end Command

end ClusterOperator
