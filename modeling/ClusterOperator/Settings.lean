import ClusterOperator.Backoff

/-!
# Settings

What can be tuned from outside: how many objects are worked on at once, how long a pass may take,
how often a namespace looks for its cluster, and the longest delay after failures.
-/

namespace ClusterOperator

/-- How long a pass may take where nothing is said about it. -/
def Settings.standardTimeout : Duration := .ofSeconds 60

/-- How often a namespace looks for its cluster where nothing is said about it. -/
def Settings.standardInterval : Duration := .ofSeconds 10

/-- The settings of the operator. -/
structure Settings where
  /-- The number of objects worked on at once, where zero means that there is no limit. -/
  concurrency : Nat := 4
  passTimeout : Duration := Settings.standardTimeout
  pollInterval : Duration := Settings.standardInterval
  backoff : BackoffPolicy Float := .standard

/-- The settings with another longest delay. -/
def Settings.withMaxDelay (settings : Settings) (delay : Duration) : Settings :=
  { settings with backoff := { settings.backoff with maxDelay := delay } }

end ClusterOperator
