import ClusterOperator.CommandLine.Basic
import ClusterOperator.Definition.Manifest

/-!
# The program

Reads the command line and the environment, and does what they ask for.
-/

open ClusterOperator

/-- The variables of the environment that count. -/
def readEnvironment : IO (StringMap String) := do
  let names := "RUST_LOG" :: ValueOption.all.map ValueOption.variableName
  names.foldlM
    (fun map name => do
      match ← IO.getEnv name with
      | none => pure map
      | some value => pure (map.insert name value))
    ∅

/-- The line that announces the start. -/
def startLine (options : Options) : String :=
  let settings := options.settings
  match options.logFormat with
  | .text =>
      "INFO temporal_operator: Temporal operator starting... concurrency=" ++
        toString settings.concurrency ++ " pass_timeout=" ++ settings.passTimeout.describe ++
        " cluster_poll_interval=" ++ settings.pollInterval.describe ++
        " max_delay=" ++ settings.backoff.maxDelay.describe
  | .json =>
      Json.write <| .object
        [("level", .string "INFO"), ("target", .string "temporal_operator"),
          ("fields", .object
            [("message", .string "Temporal operator starting..."),
              ("concurrency", .integer settings.concurrency),
              ("pass_timeout", .string settings.passTimeout.describe),
              ("cluster_poll_interval", .string settings.pollInterval.describe),
              ("max_delay", .string settings.backoff.maxDelay.describe)])]

/-- Runs the program. -/
def main (arguments : List String) : IO UInt32 := do
  let environment ← readEnvironment
  let command := CommandLine.read arguments environment
  match command with
  | .refuse => IO.eprintln "error: invalid arguments\n\nFor more information, try '--help'."
  | .help => IO.print Command.helpText
  | .version => IO.print Command.versionText
  | .manifest => IO.print Definition.manifest
  | .start options =>
      if CommandLine.announcesStart environment then IO.println (startLine options)
      IO.eprintln "Error: Failed to create Kubernetes client: there is no cluster to work in"
  | .breakDown => IO.eprintln "The log filter would have to be cut inside a character."
  pure (UInt32.ofNat command.exitCode)
