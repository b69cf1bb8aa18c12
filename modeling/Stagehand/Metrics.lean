/-!
# Metrics
Counts of what happened, as they are told to a monitoring system: the series, their descriptions,
and the increments so far.
-/

namespace Stagehand

/-- A series of counts; some are kept for each kind of command. -/
inductive Series
  | fallbacks
  | commands (command : String)
  | commandErrors (command : String)
  | commandTimes (command : String)
deriving DecidableEq

namespace Series

/-- The name of a series. -/
def name : Series → String
  | fallbacks => "fanhub_cache_fallback_total"
  | commands _ => "fanhub_cache_command_total"
  | commandErrors _ => "fanhub_cache_command_error_total"
  | commandTimes _ => "fanhub_cache_command_ms"

/-- The kind of command that a series is about. -/
def command? : Series → Option String
  | fallbacks => none
  | commands c => some c
  | commandErrors c => some c
  | commandTimes c => some c

end Series

/-- What a metric measures. -/
inductive MetricUnit
  | count
  | milliseconds
deriving DecidableEq

/-- A metric as it is described to a monitoring system. A histogram takes samples, anything else is
counted. -/
structure MetricDescription where
  name : String
  unit : MetricUnit
  isHistogram : Bool
  text : String

/-- The descriptions of all metrics. -/
def metricDescriptions : List MetricDescription := [
  ⟨"fanhub_cache_fallback_total", .count, false,
    "Times the no-op cache client was substituted for the remote client."⟩,
  ⟨"fanhub_cache_command_total", .count, false,
    "Total number of commands sent to the remote cache."⟩,
  ⟨"fanhub_cache_command_error_total", .count, false,
    "Total number of remote cache commands that failed."⟩,
  ⟨"fanhub_cache_command_ms", .milliseconds, true,
    "Remote cache command latency in milliseconds."⟩]

/-- The increments so far, the latest first. -/
structure Metrics where
  increments : List Series := []
deriving DecidableEq

namespace Metrics

/-- Counts one more. -/
def increment (m : Metrics) (s : Series) : Metrics := ⟨s :: m.increments⟩

/-- How often a series was counted. -/
def total (m : Metrics) (s : Series) : Nat := m.increments.count s

/-- The series that were counted, each once. -/
def seen (m : Metrics) : List Series := m.increments.eraseDups

end Metrics

end Stagehand
