import ClusterOperator.Duration.Reader
import ClusterOperator.Duration.Text
import ClusterOperator.Error
import ClusterOperator.Instant.Text
import ClusterOperator.Json.Basic
import ClusterOperator.Json.Shape
import ClusterOperator.Text.Basic

/-!
# Times in JSON

Durations and instants stand in documents as texts. Where no digit may be lost, a duration is also
written in parts: its whole seconds, as a text, and the nanoseconds beyond them.
-/

namespace ClusterOperator

def Duration.shape : Json.Shape :=
  .checked true "a string" fun text =>
    match Duration.read text with
    | .ok _ => none
    | .error error => some (.unreadable error.message)

def Duration.ofJson? (json : Json) : Option Duration := json.string?.bind Duration.read?

/-- The written form of a duration. -/
def Duration.toJson (span : Duration) : Json := .string span.toText

def Duration.ofParts? (json : Json) : Option Duration := do
  let seconds ← Text.readWord? 64 (← (← json.field? "secs").string?)
  let nanos ← (← json.field? "nanos").integer? 0 (999_999_999)
  Duration.ofNanoseconds? (seconds * 1_000_000_000 + nanos.toNat)

def Duration.toParts (span : Duration) : Json :=
  .object
    [("secs", .string (toString span.seconds)), ("nanos", .integer span.subsecondNanos)]

/-- The shape of a time stamp. -/
def Instant.shape : Json.Shape :=
  .checked false "an RFC 3339 formatted date and time string" fun text =>
    match Instant.read text with
    | .ok _ => none
    | .error fault => some (.unreadable fault.text)

/-- Reads a time stamp. -/
def Instant.ofJson? (json : Json) : Option Instant := json.string?.bind Instant.read?

/-- The written form of a time stamp. -/
def Instant.toJson (time : Instant) : Json := .string time.toText

/-- The written form of a time stamp in whole seconds. -/
def Instant.toSecondsJson (time : Instant) : Json := .string time.toSecondsText

end ClusterOperator
